import EventFeed.Proofs.Frame.Decoding
import EventFeed.Proofs.Json.Places

/-!
# Fields of the data of a frame

`FieldAt` finds the text of a field in the text of a frame. The data of the event that a frame
decodes to hold the values that are written there, and no others (`get?_data_iff`).
-/

namespace EventFeed

open Json (Given ItemAt MemberAt Padded ValueText Written)

namespace Frame

/-- The text of the data in the text of a frame, which may also be an array of the fields. -/
inductive DataText : List Char → List Char → Prop
  | member (h : MemberAt 126 w "data" d) : DataText w d
  | item (h : ItemAt 126 w 2 d) : DataText w d

/-- The text of the value under a key in the data of a frame. -/
def FieldAt (text key : String) (v : List Char) : Prop :=
  ∃ d, MemberAt 125 d key v ∧ Padded DataText text.toList d

/-- What stands in a value in the place of the data of an event. -/
def data? : Json → Option Json
  | .obj ms => Members.get? ms "data"
  | .arr items => items[2]?
  | _ => none

variable {d v w : List Char} {e : Event} {j k : Json} {key text : String}

theorem given_data (h : e.Describes j) : Given .obj [] (data? j) e.data := by
  cases h with
  | object _ _ hdata _ => exact hdata
  | array _ hdata _ => exact hdata

theorem DataText.exists_value (h : DataText w d) :
    ∃ j, (∃ k, data? j = some k ∧ ValueText 126 d k) ∧ ValueText 127 w j := by
  cases h with
  | member h =>
      obtain ⟨ms, k, hw, hget, hk⟩ := h.exists_object
      exact ⟨.obj ms, ⟨k, hget, hk⟩, Or.inr (Or.inr hw)⟩
  | item h =>
      obtain ⟨items, k, hw, hget, hk⟩ := h.exists_array
      exact ⟨.arr items, ⟨k, hget, hk⟩, Or.inr (Or.inl hw)⟩

theorem exists_dataText (h : ValueText 127 w j) (hdata : data? j = some k) :
    ∃ d, ValueText 126 d k ∧ DataText w d := by
  rcases h with h | h | h
  · cases h <;> cases hdata
  · obtain ⟨items, rfl, -⟩ := h.exists_items
    obtain ⟨d, hplace, hd⟩ := (Json.getElem?_eq_some_iff h).1 hdata
    exact ⟨d, hd, .item hplace⟩
  · obtain ⟨ms, rfl, -⟩ := h.exists_members
    obtain ⟨d, hplace, hd⟩ := (Json.get?_eq_some_iff h).1 hdata
    exact ⟨d, hd, .member hplace⟩

theorem data?_eq_some_iff (h : Written 127 text j) :
    data? j = some k ↔ ∃ d, ValueText 126 d k ∧ Padded DataText text.toList d := by
  constructor
  · intro hdata
    exact h.exists_of_imp fun hw ↦ exists_dataText hw hdata
  · rintro ⟨d, hd, hplace⟩
    obtain ⟨j', ⟨k', hdata, hk'⟩, hwritten⟩ := hplace.exists_of_imp DataText.exists_value
    have hread := Json.read_eq_ok_iff.2 h
    rw [Json.read_eq_ok_iff.2 hwritten] at hread
    cases hread
    rw [hdata, hk'.unique hd]

/-- The data of an event hold what is written in the fields of the frame, and nothing else. -/
theorem get?_data_iff (h : decode text = .ok e) :
    e.data.get? key = some j ↔ ∃ v, FieldAt text key v ∧ ValueText 125 v j := by
  obtain ⟨whole, hwritten, hdescribes⟩ := decode_eq_ok_iff.1 h
  have hgiven := given_data hdescribes
  constructor
  · intro hget
    cases hdata : data? whole with
    | none =>
        rw [hdata, Json.given_none] at hgiven
        rw [hgiven] at hget
        cases hget
    | some k =>
        rw [hdata, Json.given_some] at hgiven
        subst hgiven
        obtain ⟨d, hd, hplace⟩ := (data?_eq_some_iff hwritten).1 hdata
        obtain ⟨v, hv, hvalue⟩ := (Json.get?_eq_some_iff hd.objectText).1 hget
        exact ⟨v, ⟨d, hv, hplace⟩, hvalue⟩
  · rintro ⟨v, ⟨d, hv, hplace⟩, hvalue⟩
    obtain ⟨ms, j', hobject, hget, hvalue'⟩ := hv.exists_object
    have hdata := (data?_eq_some_iff hwritten).2 ⟨d, Or.inr (Or.inr hobject), hplace⟩
    rw [hdata, Json.given_some] at hgiven
    cases hgiven
    rw [hget, hvalue'.unique hvalue]

theorem exists_get?_of_fieldAt (h : decode text = .ok e) (hv : FieldAt text key v) :
    ∃ j, e.data.get? key = some j ∧ ValueText 125 v j := by
  obtain ⟨d, hmember, hplace⟩ := hv
  obtain ⟨ms, j, -, -, hvalue⟩ := hmember.exists_object
  exact ⟨j, (get?_data_iff h).2 ⟨v, ⟨d, hmember, hplace⟩, hvalue⟩, hvalue⟩

end Frame

end EventFeed
