import EventFeed.Decimal.Binary64

/-!
# JSON values

A number is an integer or a finite floating point number, and the two never mix: `1` and `1.0` are
different values. The members of an object stand in the order of their names, each name once;
`Members.Sorted.insert` says that an insertion keeps that order, `Members.get?_insert` what it
changes.
-/

namespace EventFeed

inductive Number where
  | int (n : Int)
  | float (x : Decimal.Binary64)
  deriving DecidableEq

inductive Json where
  | null
  | bool (b : Bool)
  | num (n : Number)
  | str (s : String)
  | arr (items : List Json)
  | obj (members : List (String × Json))

abbrev Members := List (String × Json)

namespace Members

def get? : Members → String → Option Json
  | [], _ => none
  | (k, v) :: ms, key => if key = k then some v else get? ms key

/-- The members with `key` standing for `value`, whatever it stood for before. -/
def insert (key : String) (value : Json) : Members → Members
  | [] => [(key, value)]
  | (k, v) :: ms =>
    if key = k then (key, value) :: ms
    else if key < k then (key, value) :: (k, v) :: ms
    else (k, v) :: insert key value ms

/-- Of two members with one name the later one counts. -/
def ofList (pairs : List (String × Json)) : Members :=
  pairs.foldl (fun ms p ↦ insert p.1 p.2 ms) []

def Sorted (ms : Members) : Prop := ms.Pairwise fun a b ↦ a.1 < b.1

@[simp] theorem get?_nil (key : String) : get? [] key = none := rfl

theorem get?_cons (k : String) (v : Json) (ms : Members) (key : String) :
    get? ((k, v) :: ms) key = if key = k then some v else get? ms key := rfl

theorem get?_insert (ms : Members) (k : String) (v : Json) (key : String) :
    (insert k v ms).get? key = if key = k then some v else ms.get? key := by
  induction ms with
  | nil => simp [insert, get?_cons]
  | cons p ms ih =>
    obtain ⟨k', v'⟩ := p
    by_cases h : k = k'
    · subst h
      by_cases hk : key = k <;> simp [insert, get?_cons, hk]
    · by_cases hlt : k < k'
      · simp [insert, get?_cons, h, hlt]
      · by_cases hk : key = k
        · subst hk
          simp [insert, get?_cons, h, hlt, ih]
        · simp [insert, get?_cons, h, hlt, ih, hk]

theorem mem_insert {ms : Members} {k : String} {v : Json} {p : String × Json}
    (h : p ∈ insert k v ms) : p = (k, v) ∨ p ∈ ms := by
  induction ms with
  | nil => simpa [insert] using h
  | cons q ms ih =>
    simp only [insert] at h
    split at h
    · rcases List.mem_cons.1 h with h | h
      · exact .inl h
      · exact .inr (List.mem_cons_of_mem _ h)
    · split at h
      · exact List.mem_cons.1 h
      · rcases List.mem_cons.1 h with rfl | h
        · exact .inr (List.mem_cons_self ..)
        · exact (ih h).imp_right (List.mem_cons_of_mem _)

theorem Sorted.insert {ms : Members} (h : Sorted ms) (k : String) (v : Json) :
    Sorted (ms.insert k v) := by
  induction ms with
  | nil => simp [Sorted, Members.insert]
  | cons p ms ih =>
    obtain ⟨first, rest⟩ := List.pairwise_cons.1 h
    simp only [Sorted, Members.insert]
    split
    · next hk =>
      subst hk
      exact List.pairwise_cons.2 ⟨first, rest⟩
    · next hk =>
      split
      · next hlt =>
        refine List.pairwise_cons.2 ⟨fun q hq ↦ ?_, h⟩
        rcases List.mem_cons.1 hq with rfl | hq
        · exact hlt
        · exact String.lt_trans hlt (first q hq)
      · next hlt =>
        refine List.pairwise_cons.2 ⟨fun q hq ↦ ?_, ih rest⟩
        rcases mem_insert hq with rfl | hq
        · exact Decidable.byContradiction fun hge ↦
            hk (String.le_antisymm (String.not_lt.1 hge) (String.not_lt.1 hlt))
        · exact first q hq

theorem sorted_ofList (pairs : List (String × Json)) : Sorted (ofList pairs) := by
  suffices ∀ ms, Sorted ms → Sorted (pairs.foldl (fun ms p ↦ insert p.1 p.2 ms) ms) from
    this [] .nil
  induction pairs with
  | nil => exact fun _ h ↦ h
  | cons p pairs ih => exact fun ms h ↦ ih _ (h.insert p.1 p.2)

end Members

namespace Json

def nat (n : Nat) : Json := .num (.int n)

def text? : Json → Option String
  | .str s => some s
  | _ => none

def members? : Json → Option Members
  | .obj ms => some ms
  | _ => none

/-- What stands at the end of a path of member names. -/
def at? (j : Json) : List String → Option Json
  | [] => some j
  | key :: path => (j.members?.bind fun ms ↦ Members.get? ms key).bind fun v ↦ v.at? path

end Json

end EventFeed
