import EventFeed.Frame.Control

/-!
# Topic sets

The topics that a client wants, in increasing order and each once. `mem_insert` and `mem_erase` say
what the two changes do to the members.
-/

namespace EventFeed.Connection

namespace Topics

def insertInto (t : Topic) : List Topic → List Topic
  | [] => [t]
  | x :: xs => if t = x then x :: xs else if t < x then t :: x :: xs else x :: insertInto t xs

theorem mem_insertInto {s t : Topic} {xs : List Topic} :
    s ∈ insertInto t xs ↔ s = t ∨ s ∈ xs := by
  induction xs with
  | nil => simp [insertInto]
  | cons x xs ih =>
    by_cases h : t = x
    · subst h
      simp [insertInto]
    · by_cases hlt : t < x
      · simp [insertInto, h, hlt]
      · simp only [insertInto, h, hlt, if_false, List.mem_cons, ih]
        grind

theorem lt_of_not_lt {s t : Topic} (ne : s ≠ t) (h : ¬ s < t) : t < s :=
  Decidable.byContradiction fun h' ↦
    ne (String.le_antisymm (String.not_lt.1 h') (String.not_lt.1 h))

theorem pairwise_insertInto {t : Topic} {xs : List Topic} (h : xs.Pairwise (· < ·)) :
    (insertInto t xs).Pairwise (· < ·) := by
  induction xs with
  | nil => simp [insertInto]
  | cons x xs ih =>
    obtain ⟨first, rest⟩ := List.pairwise_cons.1 h
    by_cases ht : t = x
    · simpa [insertInto, ht] using h
    · by_cases hlt : t < x
      · simp only [insertInto, ht, hlt, if_true, if_false, List.pairwise_cons]
        refine ⟨fun y hy ↦ ?_, first, rest⟩
        rcases List.mem_cons.1 hy with rfl | hy
        · exact hlt
        · exact String.lt_trans hlt (first y hy)
      · simp only [insertInto, ht, hlt, if_false, List.pairwise_cons]
        refine ⟨fun y hy ↦ ?_, ih rest⟩
        rcases mem_insertInto.1 hy with rfl | hy
        · exact lt_of_not_lt ht hlt
        · exact first y hy

end Topics

structure Topics where
  toList : List Topic
  sorted : toList.Pairwise (· < ·)
  deriving DecidableEq

namespace Topics

instance : Membership Topic Topics := ⟨fun s t ↦ t ∈ s.toList⟩

instance (t : Topic) (s : Topics) : Decidable (t ∈ s) :=
  inferInstanceAs (Decidable (t ∈ s.toList))

theorem mem_def {t : Topic} {s : Topics} : t ∈ s ↔ t ∈ s.toList := Iff.rfl

def empty : Topics := ⟨[], .nil⟩

def insert (s : Topics) (t : Topic) : Topics :=
  ⟨insertInto t s.toList, pairwise_insertInto s.sorted⟩

def erase (s : Topics) (t : Topic) : Topics :=
  ⟨s.toList.erase t, s.sorted.sublist List.erase_sublist⟩

def size (s : Topics) : Nat := s.toList.length

def isEmpty (s : Topics) : Bool := s.toList.isEmpty

/-- One frame for each topic, which a new connection starts with. -/
def replay (s : Topics) : List Frame.Control := s.toList.map .subscribe

@[simp] theorem not_mem_empty (t : Topic) : t ∉ empty := by simp [mem_def, empty]

@[simp] theorem mem_insert {s : Topics} {t u : Topic} : u ∈ s.insert t ↔ u = t ∨ u ∈ s :=
  mem_insertInto

theorem nodup (s : Topics) : s.toList.Nodup := by
  refine List.Pairwise.imp ?_ s.sorted
  rintro t _ h rfl
  exact String.lt_irrefl t h

@[simp] theorem mem_erase {s : Topics} {t u : Topic} : u ∈ s.erase t ↔ u ≠ t ∧ u ∈ s :=
  s.nodup.mem_erase_iff

end Topics

end EventFeed.Connection
