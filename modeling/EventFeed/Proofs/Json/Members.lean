import EventFeed.Json.Basic
import Mathlib.Data.List.Sort

/-!
# Members by name

`Latest pairs ms` says what is left of pairs when the last one of each name counts. It is what
`Members.ofList` makes (`latest_ofList`), and nothing else is (`Latest.eq`), because members in the
order of their names are known by what each name stands for.
-/

namespace EventFeed.Members

/-- What is left of pairs when the last one of each name counts. -/
structure Latest (pairs : List (String × Json)) (ms : Members) : Prop where
  sorted : Sorted ms
  get? : ∀ key, ms.get? key = pairs.reverse.lookup key

variable {key : String} {ms ms' : Members} {p : String × Json} {pairs : List (String × Json)}

theorem sorted_cons : Sorted (p :: ms) ↔ (∀ q ∈ ms, p.1 < q.1) ∧ Sorted ms :=
  List.pairwise_cons

theorem sorted_of_names (names : List String) (hms : ms.map (·.1) = names)
    (hnames : names.Pairwise (· < ·)) : Sorted ms := by
  subst hms
  exact List.pairwise_map.1 hnames

theorem lookup_singleton (k : String) (v : Json) (key : String) :
    [(k, v)].lookup key = if key = k then some v else none := by
  rw [List.lookup_cons, List.lookup_nil]
  split <;> simp_all

theorem get?_ofList (pairs : List (String × Json)) (key : String) :
    (ofList pairs).get? key = pairs.reverse.lookup key := by
  suffices hinsert : ∀ ms : Members, (pairs.foldl (fun ms p ↦ insert p.1 p.2 ms) ms).get? key =
      (pairs.reverse.lookup key).or (ms.get? key) by
    simpa [ofList] using hinsert []
  induction pairs with
  | nil => simp
  | cons p pairs ih =>
      intro ms
      rw [List.foldl_cons, ih, List.reverse_cons, List.lookup_append, get?_insert, Option.or_assoc,
        lookup_singleton]
      by_cases hkey : key = p.1 <;> simp [hkey]

theorem latest_ofList (pairs : List (String × Json)) : Latest pairs (ofList pairs) :=
  ⟨sorted_ofList pairs, get?_ofList pairs⟩

theorem mem_of_get? {v : Json} (h : ms.get? key = some v) : (key, v) ∈ ms := by
  induction ms with
  | nil => cases h
  | cons q ms ih =>
      rw [get?_cons q.1 q.2] at h
      split at h
      · next hkey =>
        cases h
        exact hkey ▸ List.mem_cons_self
      · exact List.mem_cons_of_mem _ (ih h)

theorem mem_iff_of_nodup (h : (ms.map (·.1)).Nodup) : p ∈ ms ↔ ms.get? p.1 = some p.2 := by
  induction ms with
  | nil => simp
  | cons q ms ih =>
      rw [List.map_cons, List.nodup_cons] at h
      obtain ⟨hfirst, hrest⟩ := h
      obtain ⟨k, v⟩ := p
      obtain ⟨k', v'⟩ := q
      rw [List.mem_cons, ih hrest, get?_cons, Prod.mk.injEq]
      by_cases hkey : k = k'
      · subst hkey
        have hnone : get? ms k ≠ some v := fun hsome ↦
          hfirst (List.mem_map.2 ⟨_, (ih hrest).2 hsome, rfl⟩)
        simp [hnone, eq_comm]
      · simp [hkey]

theorem get?_filter (known : String → Bool) (ms : Members) (key : String) :
    get? (ms.filter fun m ↦ known m.1) key = if known key then ms.get? key else none := by
  induction ms with
  | nil => simp
  | cons q ms ih =>
      obtain ⟨k, v⟩ := q
      by_cases hk : known k
      · rw [List.filter_cons_of_pos (by exact hk), get?_cons, get?_cons, ih]
        by_cases hkey : key = k <;> simp [hkey, hk]
      · rw [List.filter_cons_of_neg (by exact hk), ih, get?_cons]
        by_cases hkey : key = k <;> simp [hkey, hk]

theorem Sorted.nodup (h : Sorted ms) : (ms.map (·.1)).Nodup :=
  List.Pairwise.map _ (fun _ _ hlt ↦ String.ne_of_lt hlt) h

theorem Sorted.mem_iff (h : Sorted ms) : p ∈ ms ↔ ms.get? p.1 = some p.2 :=
  mem_iff_of_nodup h.nodup

theorem Sorted.ext (h : Sorted ms) (h' : Sorted ms') (hget : ∀ key, ms.get? key = ms'.get? key) :
    ms = ms' := by
  have : Std.Irrefl fun a b : String × Json ↦ a.1 < b.1 := ⟨fun a ↦ String.lt_irrefl a.1⟩
  refine List.Pairwise.eq_of_mem_iff h h' fun p ↦ ?_
  rw [h.mem_iff, h'.mem_iff, hget]

theorem Latest.eq (h : Latest pairs ms) (h' : Latest pairs ms') : ms = ms' :=
  h.sorted.ext h'.sorted fun key ↦ (h.get? key).trans (h'.get? key).symm

theorem Latest.mem (h : Latest pairs ms) (hp : p ∈ ms) : p ∈ pairs := by
  have hlookup := (h.get? p.1).symm.trans (h.sorted.mem_iff.1 hp)
  obtain ⟨before, after, hpairs, -⟩ := List.lookup_eq_some_iff.1 hlookup
  rw [← List.mem_reverse, hpairs]
  simp

/-- Members that stand in the order of their names are all left. -/
theorem Sorted.latest (h : Sorted ms) : Latest ms ms := by
  refine ⟨h, fun key ↦ ?_⟩
  induction ms with
  | nil => rfl
  | cons q ms ih =>
      obtain ⟨hfirst, hrest⟩ := sorted_cons.1 h
      obtain ⟨k, v⟩ := q
      rw [List.reverse_cons, List.lookup_append, ← ih hrest, lookup_singleton, get?_cons]
      by_cases hkey : key = k
      · cases hget : get? ms key with
        | none => simp [hkey]
        | some v' =>
            have hlt := hfirst (key, v') (hrest.mem_iff.2 hget)
            exact absurd (hkey ▸ hlt) (String.lt_irrefl k)
      · simp [hkey]

end EventFeed.Members
