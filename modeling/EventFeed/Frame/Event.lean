import EventFeed.Json.Reader
import EventFeed.Json.Shape

/-!
# Events

What the server pushes: an object with a `type`, and an id, a time and data that may be missing.
A text that is no JSON and JSON of another shape are different faults.
-/

namespace EventFeed

structure Event where
  id : String
  type : String
  data : Members
  timestamp : String

namespace Event

def toJson (e : Event) : Json :=
  .obj [("id", .str e.id), ("type", .str e.type), ("data", .obj e.data),
    ("timestamp", .str e.timestamp)]

def shape : Json.Shape Event :=
  Event.mk <$> .optional "id" Json.asText ""
    <*> .required "type" Json.asText
    <*> .optional "data" Json.asMembers []
    <*> .optional "timestamp" Json.asText ""

/-- The text under `key`, unless it is empty. -/
def text? (e : Event) (key : String) : Option String :=
  match e.data.get? key with
  | some (.str s) => if s = "" then none else some s
  | _ => none

def flag? (e : Event) (key : String) : Option Bool :=
  match e.data.get? key with
  | some (.bool b) => some b
  | _ => none

/-- Whether the value under `key` is the text `expected`, or a number that is written so. -/
def correlates (e : Event) (key expected : String) : Bool :=
  match e.data.get? key with
  | some (.str s) => s = expected
  | some (.num n) => (Json.num n).print = expected
  | _ => false

end Event

namespace Frame

inductive DecodeError where
  | invalidJson (cause : Json.ReadError)
  | invalidShape (cause : Json.ShapeError)

def DecodeError.message : DecodeError → String
  | .invalidJson cause => "frame is not valid JSON: " ++ cause.message
  | .invalidShape cause => "frame is not an event object: " ++ cause.message

def decode (text : String) : Except DecodeError Event := do
  let j ← (Json.read text).mapError .invalidJson
  (Event.shape.read "InboundEvent" j).mapError .invalidShape

end Frame

end EventFeed
