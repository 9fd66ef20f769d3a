import EventFeed.Frame.Event
import EventFeed.Proofs.Json.Printing
import EventFeed.Proofs.Json.Shapes

/-!
# Which texts are events

`Describes j e` says what a JSON value has to look like to stand for the event `e`: an object whose
members are the fields, or an array of the fields in their order. `decode_classifies` says that a
text decodes to the events that what is written in it describes, and which of the two faults it has
when there is none.
-/

namespace EventFeed

open Json (Given)

/-- The values that stand for an event. Members of an object that are no fields do not matter, and
an array has its fields from the front, at least the first two. -/
inductive Event.Describes (e : Event) : Json → Prop
  | object {ms : Members} (hid : Given .str "" (ms.get? "id") e.id)
      (htype : ms.get? "type" = some (.str e.type)) (hdata : Given .obj [] (ms.get? "data") e.data)
      (htimestamp : Given .str "" (ms.get? "timestamp") e.timestamp) : Describes e (.obj ms)
  | array (hlength : more.length ≤ 2) (hdata : Given .obj [] more[0]? e.data)
      (htimestamp : Given .str "" more[1]? e.timestamp) :
      Describes e (.arr (.str e.id :: .str e.type :: more))

namespace Event

variable {e : Event} {items : List Json} {j : Json} {ms : Members}

theorem checks_shape : shape.Checks :=
  (((Json.Shape.checks_optional.map _).seq Json.Shape.checks_required).seq
    Json.Shape.checks_optional).seq Json.Shape.checks_optional

theorem build_shape : shape.build ms = .ok e ↔
    Given .str "" (ms.get? "id") e.id ∧ ms.get? "type" = some (.str e.type) ∧
      Given .obj [] (ms.get? "data") e.data ∧ Given .str "" (ms.get? "timestamp") e.timestamp := by
  simp only [shape, Json.Shape.build_seq, Json.Shape.build_map,
    Json.Shape.build_optional Json.asText_eq_ok_iff,
    Json.Shape.build_required Json.asText_eq_ok_iff,
    Json.Shape.build_optional Json.asMembers_eq_ok_iff]
  constructor
  · rintro ⟨_, timestamp, ⟨_, data, ⟨_, type, ⟨id, hid, rfl⟩, htype, rfl⟩, hdata, rfl⟩,
      htimestamp, rfl⟩
    exact ⟨hid, htype, hdata, htimestamp⟩
  · rintro ⟨hid, htype, hdata, htimestamp⟩
    exact ⟨_, e.timestamp, ⟨_, e.data, ⟨_, e.type, ⟨e.id, hid, rfl⟩, htype, rfl⟩, hdata, rfl⟩,
      htimestamp, rfl⟩

theorem read_object (hms : ms.Sorted) :
    shape.read "InboundEvent" (.obj ms) = .ok e ↔ e.Describes (.obj ms) := by
  rw [Json.Shape.read_object checks_shape hms, build_shape]
  constructor
  · rintro ⟨hid, htype, hdata, htimestamp⟩
    exact .object hid htype hdata htimestamp
  · rintro ⟨hid, htype, hdata, htimestamp⟩
    exact ⟨hid, htype, hdata, htimestamp⟩

theorem checkLength_shape (length : Nat) :
    Json.Shape.checkLength "InboundEvent" shape.fields length = .ok () ↔
      2 ≤ length ∧ length ≤ 4 := by
  rw [Json.Shape.checkLength_eq_ok_iff]
  match length with
  | 0 | 1 | 2 | 3 | 4 => decide
  | n + 5 =>
    have hfields : shape.fields.length = 4 := rfl
    omega

theorem read_array :
    shape.read "InboundEvent" (.arr items) = .ok e ↔ e.Describes (.arr items) := by
  rw [Json.Shape.read_array checks_shape (by decide), checkLength_shape, build_shape]
  match items with
  | [] | [_] =>
    constructor
    · rintro ⟨⟨hlength, -⟩, -⟩
      exact absurd hlength (by simp)
    · rintro ⟨⟩
  | id :: type :: more =>
    have hfields : Members.get? ((shape.fields.map (·.name)).zip (id :: type :: more)) "data" =
        more[0]? ∧
        Members.get? ((shape.fields.map (·.name)).zip (id :: type :: more)) "timestamp" =
          more[1]? := by
      match more with
      | [] | [_] | _ :: _ :: _ => exact ⟨rfl, rfl⟩
    rw [hfields.1, hfields.2]
    constructor
    · rintro ⟨⟨-, hlength⟩, hid, htype, hdata, htimestamp⟩
      obtain rfl : id = .str e.id := Json.given_some.1 hid
      obtain rfl : type = .str e.type := Option.some.inj htype
      simp only [List.length_cons] at hlength
      exact .array (by omega) hdata htimestamp
    · intro h
      cases h with
      | array hlength hdata htimestamp =>
        simp only [List.length_cons]
        exact ⟨⟨by omega, by omega⟩, .present e.id, rfl, hdata, htimestamp⟩

/-- The objects in what is read have their members in the order of the names. -/
theorem read_iff_describes (hsorted : ∀ ms : Members, j = .obj ms → ms.Sorted) :
    shape.read "InboundEvent" j = .ok e ↔ e.Describes j := by
  cases j with
  | obj ms => exact read_object (hsorted ms rfl)
  | arr items => exact read_array
  | null | bool | num | str =>
      constructor
      · nofun
      · nofun

end Event

namespace Frame

variable {e : Event} {j : Json} {text : String}

theorem decode_of_error {cause : Json.ReadError} (h : Json.read text = .error cause) :
    decode text = .error (.invalidJson cause) := by
  rw [decode, h]
  rfl

theorem decode_of_ok (h : Json.read text = .ok j) :
    decode text = (Event.shape.read "InboundEvent" j).mapError .invalidShape := by
  rw [decode, h]
  rfl

theorem read_iff_describes_of_written (h : Json.Written 127 text j) :
    Event.shape.read "InboundEvent" j = .ok e ↔ e.Describes j := by
  refine Event.read_iff_describes fun ms hj ↦ ?_
  obtain ⟨w, hw⟩ := Json.Padded.exists_inside h
  exact hw.wellFormed.sorted (hj ▸ .self)

theorem decode_of_written (hj : Json.Written 127 text j) :
    decode text = (Event.shape.read "InboundEvent" j).mapError .invalidShape :=
  decode_of_ok (Json.read_eq_ok_iff.2 hj)

theorem decode_eq_ok_iff :
    decode text = .ok e ↔ ∃ j, Json.Written 127 text j ∧ e.Describes j := by
  constructor
  · intro h
    cases hread : Json.read text with
    | error cause => exact nomatch (decode_of_error hread).symm.trans h
    | ok j =>
        have hj := Json.read_eq_ok_iff.1 hread
        refine ⟨j, hj, (read_iff_describes_of_written hj).1 ?_⟩
        rw [decode_of_written hj] at h
        cases hshape : Event.shape.read "InboundEvent" j with
        | error cause => exact nomatch hshape ▸ h
        | ok e' =>
            rw [hshape] at h
            cases h
            rfl
  · rintro ⟨j, hj, he⟩
    rw [decode_of_written hj, (read_iff_describes_of_written hj).2 he]
    rfl

theorem decode_eq_invalidJson_iff :
    (∃ cause, decode text = .error (.invalidJson cause)) ↔ ∀ j, ¬ Json.Written 127 text j := by
  constructor
  · rintro ⟨cause, h⟩ j hj
    rw [decode_of_written hj] at h
    cases hshape : Event.shape.read "InboundEvent" j <;> simp [hshape, Except.mapError] at h
  · intro hnone
    cases hread : Json.read text with
    | error cause => exact ⟨cause, decode_of_error hread⟩
    | ok j => exact absurd (Json.read_eq_ok_iff.1 hread) (hnone j)

theorem decode_eq_invalidShape_iff :
    (∃ cause, decode text = .error (.invalidShape cause)) ↔
      ∃ j, Json.Written 127 text j ∧ ∀ e : Event, ¬ e.Describes j := by
  constructor
  · rintro ⟨cause, h⟩
    cases hread : Json.read text with
    | error cause => exact nomatch (decode_of_error hread).symm.trans h
    | ok j =>
        have hj := Json.read_eq_ok_iff.1 hread
        refine ⟨j, hj, fun e he ↦ ?_⟩
        exact nomatch h.symm.trans (decode_eq_ok_iff.2 ⟨j, hj, he⟩)
  · rintro ⟨j, hj, hnone⟩
    rw [decode_of_written hj]
    cases hshape : Event.shape.read "InboundEvent" j with
    | error cause => exact ⟨cause, rfl⟩
    | ok e => exact absurd ((read_iff_describes_of_written hj).1 hshape) (hnone e)

/-- A text decodes to the events that what is written in it describes. If nothing is written in it,
it is no JSON; if that describes no event, it has another shape. -/
theorem decode_classifies (text : String) :
    (∀ e, decode text = .ok e ↔ ∃ j, Json.Written 127 text j ∧ e.Describes j) ∧
      ((∃ cause, decode text = .error (.invalidJson cause)) ↔ ∀ j, ¬ Json.Written 127 text j) ∧
      ((∃ cause, decode text = .error (.invalidShape cause)) ↔
        ∃ j, Json.Written 127 text j ∧ ∀ e : Event, ¬ e.Describes j) :=
  ⟨fun _ ↦ decode_eq_ok_iff, decode_eq_invalidJson_iff, decode_eq_invalidShape_iff⟩

theorem decode_print_of_describes (hj : Json.WellFormed j) (hfloat : Json.Floatless j)
    (hdepth : j.depth ≤ 127) (he : e.Describes j) : decode j.print = .ok e :=
  decode_eq_ok_iff.2 ⟨j, Json.written_print hj hfloat hdepth, he⟩

/-- The fields of an event in an array, without their names. -/
theorem array_text_decodes : ∃ items e,
    Json.Written 127 "[\"a\",\"notification\"]" (.arr items) ∧
      decode "[\"a\",\"notification\"]" = .ok e := by
  have hprint : (Json.arr [.str "a", .str "notification"]).print = "[\"a\",\"notification\"]" := rfl
  have hj : Json.WellFormed (.arr [.str "a", .str "notification"]) := by
    simp [Json.wellFormed_arr, Json.plain_str]
  have hfloat : Json.Floatless (.arr [.str "a", .str "notification"]) := by
    simp [Json.floatless_arr, Json.plain_str]
  rw [← hprint]
  exact ⟨_, ⟨"a", "notification", [], ""⟩, Json.written_print hj hfloat (by decide),
    decode_print_of_describes hj hfloat (by decide) (.array (by simp) .absent .absent)⟩

end Frame

end EventFeed
