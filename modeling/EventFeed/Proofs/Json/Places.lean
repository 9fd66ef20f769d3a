import EventFeed.Proofs.Json.Contents
import Mathlib.Data.List.Forall2

/-!
# Where values are written

The texts of the members of an object, and of the items of an array, as they stand in its text:
`MemberPlaces` and `ItemPlaces`. Of the members with one name the last counts. What is read for a
name is what is written in its place: `get?_eq_some_iff` says so for objects, `getElem?_eq_some_iff`
for arrays.
-/

namespace EventFeed.Json

/-- The text of a value stands for itself. -/
inductive Itself (levels : Nat) : List Char → List Char → Prop
  | mk (h : ValueText levels w j) : Itself levels w w

/-- The name of a member, and the text of its value. -/
inductive MemberPlace (levels : Nat) : List Char → String × List Char → Prop
  | mk (hname : Padded QuotedText k name) (hitem : Padded (Itself levels) w v) :
      MemberPlace levels (k ++ ':' :: w) (name, v)

inductive MemberPlaces (levels : Nat) : List Char → List (String × List Char) → Prop
  | nil (h : Blank w) : MemberPlaces levels ('{' :: (w ++ ['}'])) []
  | members (h : Separated (MemberPlace levels) w places) :
      MemberPlaces levels ('{' :: (w ++ ['}'])) places

inductive ItemPlaces (levels : Nat) : List Char → List (List Char) → Prop
  | nil (h : Blank w) : ItemPlaces levels ('[' :: (w ++ [']'])) []
  | items (h : Separated (Padded (Itself levels)) w places) :
      ItemPlaces levels ('[' :: (w ++ [']'])) places

/-- The text of the value that the name has in the text of an object. -/
def MemberAt (levels : Nat) (w : List Char) (name : String) (v : List Char) : Prop :=
  ∃ places, MemberPlaces levels w places ∧ places.reverse.lookup name = some v

/-- The text of an item in the text of an array. -/
def ItemAt (levels : Nat) (w : List Char) (i : Nat) (v : List Char) : Prop :=
  ∃ places, ItemPlaces levels w places ∧ places[i]? = some v

/-- A place and a member of the same name whose value is written there. -/
def Writes (levels : Nat) (p : String × List Char) (m : String × Json) : Prop :=
  p.1 = m.1 ∧ ValueText levels p.2 m.2

section Lists

variable {α β : Type} {R : α → β → Prop} {a : α} {as : List α} {b : β} {bs : List β}
  {one : List Char → α → Prop} {other : List Char → β → Prop} {w : List Char}

theorem exists_right_of_rel {o : Option β} (h : Option.Rel R (some a) o) :
    ∃ b, o = some b ∧ R a b := by
  cases h with
  | some h => exact ⟨_, rfl, h⟩

theorem exists_left_of_rel {o : Option α} (h : Option.Rel R o (some b)) :
    ∃ a, o = some a ∧ R a b := by
  cases h with
  | some h => exact ⟨_, rfl, h⟩

theorem rel_getElem? (h : List.Forall₂ R as bs) (i : Nat) : Option.Rel R as[i]? bs[i]? := by
  induction h generalizing i with
  | nil => exact .none
  | cons hab _ ih =>
      cases i with
      | zero => exact .some hab
      | succ i => exact ih i

theorem Padded.exists_of_imp {P : β → Prop} (h : Padded one w a)
    (himp : ∀ {w}, one w a → ∃ b, P b ∧ other w b) : ∃ b, P b ∧ Padded other w b := by
  obtain ⟨hbefore, hone, hafter⟩ := h
  obtain ⟨b, hb, hother⟩ := himp hone
  exact ⟨b, hb, .mk hbefore hother hafter⟩

/-- What stands between commas is described in another way, one by one. -/
theorem Separated.exists_forall₂ (h : Separated one w as)
    (himp : ∀ {w a}, one w a → ∃ b, R a b ∧ other w b) :
    ∃ bs, List.Forall₂ R as bs ∧ Separated other w bs := by
  induction h with
  | single h =>
      obtain ⟨b, hab, hb⟩ := himp h
      exact ⟨[b], .cons hab .nil, .single hb⟩
  | cons h _ ih =>
      obtain ⟨b, hab, hb⟩ := himp h
      obtain ⟨bs, habs, hbs⟩ := ih
      exact ⟨b :: bs, .cons hab habs, .cons hb hbs⟩

end Lists

variable {i levels : Nat} {j j' : Json} {js : List Json} {m : String × Json} {ms : Members}
  {name : String} {pairs : List (String × Json)} {p : String × List Char}
  {places : List (String × List Char)} {v w : List Char}

/-- A text is that of one value. -/
theorem ValueText.unique (h : ValueText levels w j) (h' : ValueText levels w j') : j = j' := by
  have hread := (reads_readValue levels).complete h endsNumber_nil
  rw [(reads_readValue levels).complete h' endsNumber_nil] at hread
  cases hread
  rfl

theorem ValueText.scalarText (h : ValueText levels w j) (hj : j.depth = 0) : ScalarText w j := by
  cases levels with
  | zero => exact h
  | succ levels =>
      rcases h with h | h | h
      · exact h
      · obtain ⟨js, rfl, -⟩ := h.exists_items
        cases hj
      · obtain ⟨ms, rfl, -⟩ := h.exists_members
        cases hj

/-- Only the text of an object is read as one. -/
theorem ValueText.objectText (h : ValueText (levels + 1) w (.obj ms)) :
    ObjectText (ValueText levels) w (.obj ms) := by
  rcases h with h | h | h
  · cases h
  · obtain ⟨js, hjs, -⟩ := h.exists_items
    cases hjs
  · exact h

theorem exists_value_of_padded (h : Padded (Itself levels) w v) :
    ∃ j, ValueText levels v j ∧ Padded (ValueText levels) w j := by
  apply h.exists_of_imp
  rintro w ⟨hw⟩
  exact ⟨_, hw, hw⟩

theorem exists_place_of_padded (h : Padded (ValueText levels) w j) :
    ∃ v, ValueText levels v j ∧ Padded (Itself levels) w v :=
  h.exists_of_imp fun hw ↦ ⟨_, hw, .mk hw⟩

theorem MemberPlace.exists_member (h : MemberPlace levels w p) :
    ∃ m, Writes levels p m ∧ MemberText (ValueText levels) w m := by
  obtain ⟨hname, hitem⟩ := h
  obtain ⟨j, hj, hvalue⟩ := exists_value_of_padded hitem
  exact ⟨(_, j), ⟨rfl, hj⟩, .mk hname hvalue⟩

theorem MemberText.exists_place (h : MemberText (ValueText levels) w m) :
    ∃ p, Writes levels p m ∧ MemberPlace levels w p := by
  obtain ⟨hname, hitem⟩ := h
  obtain ⟨v, hv, hplace⟩ := exists_place_of_padded hitem
  exact ⟨(_, v), ⟨rfl, hv⟩, .mk hname hplace⟩

theorem rel_lookup (h : List.Forall₂ (Writes levels) places pairs) (name : String) :
    Option.Rel (ValueText levels) (places.lookup name) (pairs.lookup name) := by
  induction h with
  | nil => exact .none
  | @cons p m _ _ hpm _ ih =>
      obtain ⟨hname, hvalue⟩ := hpm
      rw [List.lookup_cons, List.lookup_cons, hname]
      split
      · exact .some hvalue
      · exact ih

/-! ## Objects -/

theorem MemberPlaces.exists_object (h : MemberPlaces levels w places) :
    ∃ pairs ms, List.Forall₂ (Writes levels) places pairs ∧ Members.Latest pairs ms ∧
      ObjectText (ValueText levels) w (.obj ms) := by
  cases h with
  | nil hblank => exact ⟨[], [], .nil, Members.Sorted.latest .nil, .nil hblank⟩
  | members h =>
      obtain ⟨pairs, hpairs, htext⟩ := h.exists_forall₂ MemberPlace.exists_member
      have hlatest := Members.latest_ofList pairs
      exact ⟨pairs, _, hpairs, hlatest, .members htext hlatest⟩

theorem ObjectText.exists_places (h : ObjectText (ValueText levels) w (.obj ms)) :
    ∃ places pairs, MemberPlaces levels w places ∧ List.Forall₂ (Writes levels) places pairs ∧
      Members.Latest pairs ms := by
  cases h with
  | nil hblank => exact ⟨[], [], .nil hblank, .nil, Members.Sorted.latest .nil⟩
  | members h hms =>
      obtain ⟨places, hplaces, htext⟩ :=
        h.exists_forall₂ (R := fun m p ↦ Writes levels p m) MemberText.exists_place
      exact ⟨places, _, .members htext, hplaces.flip, hms⟩

theorem MemberAt.exists_object (h : MemberAt levels w name v) :
    ∃ (ms : Members) (j : Json), ObjectText (ValueText levels) w (.obj ms) ∧
      ms.get? name = some j ∧ ValueText levels v j := by
  obtain ⟨places, hplaces, hlookup⟩ := h
  obtain ⟨pairs, ms, hpairs, hlatest, htext⟩ := hplaces.exists_object
  have hrel := rel_lookup (List.forall₂_reverse_iff.2 hpairs) name
  rw [hlookup] at hrel
  obtain ⟨j, hj, hvalue⟩ := exists_right_of_rel hrel
  exact ⟨ms, j, htext, (hlatest.get? name).trans hj, hvalue⟩

/-- The value of a name is the one that is written for it. -/
theorem get?_eq_some_iff (h : ObjectText (ValueText levels) w (.obj ms)) :
    ms.get? name = some j ↔ ∃ v, MemberAt levels w name v ∧ ValueText levels v j := by
  constructor
  · intro hget
    obtain ⟨places, pairs, hplaces, hpairs, hlatest⟩ := h.exists_places
    have hrel := rel_lookup (List.forall₂_reverse_iff.2 hpairs) name
    rw [← hlatest.get? name, hget] at hrel
    obtain ⟨v, hv, hvalue⟩ := exists_left_of_rel hrel
    exact ⟨v, ⟨places, hplaces, hv⟩, hvalue⟩
  · rintro ⟨v, hplace, hvalue⟩
    obtain ⟨ms', j', htext, hget, hvalue'⟩ := hplace.exists_object
    have hsame : ValueText (levels + 1) w (.obj ms) := Or.inr (Or.inr h)
    cases hsame.unique (Or.inr (Or.inr htext))
    rw [hget, hvalue'.unique hvalue]

/-! ## Arrays -/

theorem ItemAt.exists_array (h : ItemAt levels w i v) :
    ∃ js j, ArrayText (ValueText levels) w (.arr js) ∧ js[i]? = some j ∧
      ValueText levels v j := by
  obtain ⟨places, hplaces, hget⟩ := h
  cases hplaces with
  | nil _ => cases hget
  | items hplaces =>
      obtain ⟨js, hjs, htext⟩ := hplaces.exists_forall₂ exists_value_of_padded
      have hrel := rel_getElem? hjs i
      rw [hget] at hrel
      obtain ⟨j, hj, hvalue⟩ := exists_right_of_rel hrel
      exact ⟨js, j, .items htext, hj, hvalue⟩

/-- An item is the one that is written in its place. -/
theorem getElem?_eq_some_iff (h : ArrayText (ValueText levels) w (.arr js)) :
    js[i]? = some j ↔ ∃ v, ItemAt levels w i v ∧ ValueText levels v j := by
  constructor
  · intro hget
    cases h with
    | nil _ => cases hget
    | items h =>
        obtain ⟨places, hplaces, htext⟩ :=
          h.exists_forall₂ (R := fun j v ↦ ValueText levels v j) exists_place_of_padded
        have hrel := rel_getElem? hplaces i
        rw [hget] at hrel
        obtain ⟨v, hv, hvalue⟩ := exists_right_of_rel hrel
        exact ⟨v, ⟨places, .items htext, hv⟩, hvalue⟩
  · rintro ⟨v, hplace, hvalue⟩
    obtain ⟨js', j', htext, hget, hvalue'⟩ := hplace.exists_array
    have hsame : ValueText (levels + 1) w (.arr js) := Or.inr (Or.inl h)
    cases hsame.unique (Or.inr (Or.inl htext))
    rw [hget, hvalue'.unique hvalue]

end EventFeed.Json
