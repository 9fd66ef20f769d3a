import EventFeed.Json.Printer
import EventFeed.Json.Reader
import EventFeed.Text.Quoted

/-!
# Reading values of a given shape

What a JSON value has to look like to stand for a text, a word of given width, one of several
names, or a record. A record is an object whose members are its fields, or an array of its fields
in their order. Members that are no fields are passed over; a field that is absent takes its
default if it has one. Faults are met in the order of the members, then in the order of the
fields.
-/

namespace EventFeed.Json

inductive ShapeError where
  | invalidType (found : Json) (expected : String)
  | invalidValue (found : Json) (expected : String)
  | invalidLength (length : Nat) (expected : String)
  | missingField (name : String)
  | unknownVariant (name : String) (expected : List String)

/-- A value as a fault names it: its kind, and for a scalar what it is. -/
def describe : Json → String
  | .null => "null"
  | .bool b => "boolean `" ++ (Json.bool b).print ++ "`"
  | .num (.int n) => "integer `" ++ (Json.num (.int n)).print ++ "`"
  | .num (.float x) => "floating point `" ++ (Json.num (.float x)).print ++ "`"
  | .str s => "string " ++ Text.quote s
  | .arr _ => "sequence"
  | .obj _ => "map"

def ShapeError.message : ShapeError → String
  | .invalidType found expected =>
    "invalid type: " ++ found.describe ++ ", expected " ++ expected
  | .invalidValue found expected =>
    "invalid value: " ++ found.describe ++ ", expected " ++ expected
  | .invalidLength length expected =>
    "invalid length " ++ (Json.nat length).print ++ ", expected " ++ expected
  | .missingField name => "missing field `" ++ name ++ "`"
  | .unknownVariant name expected =>
    "unknown variant `" ++ name ++ "`, expected one of " ++
      ", ".intercalate (expected.map fun e ↦ "`" ++ e ++ "`")

def asText : Json → Except ShapeError String
  | .str s => .ok s
  | j => .error (.invalidType j "a string")

def asBool : Json → Except ShapeError Bool
  | .bool b => .ok b
  | j => .error (.invalidType j "a boolean")

def asMembers : Json → Except ShapeError Members
  | .obj ms => .ok ms
  | j => .error (.invalidType j "a map")

/-- An integer from zero up to `limit`, which is not included; `name` names the range. -/
def asWord (limit : Nat) (name : String) : Json → Except ShapeError Nat
  | .num (.int n) =>
    if 0 ≤ n && n < limit then .ok n.toNat else .error (.invalidValue (.num (.int n)) name)
  | j => .error (.invalidType j name)

def asList (item : Json → Except ShapeError α) : Json → Except ShapeError (List α)
  | .arr items => items.mapM item
  | j => .error (.invalidType j "a sequence")

/-- `null` stands for no value. -/
def asOption (item : Json → Except ShapeError α) : Json → Except ShapeError (Option α)
  | .null => .ok none
  | j => (item j).map some

/-- A name of a list, alone or as the only member of an object, whose value is then `null`. -/
def asVariant (variants : List (String × α)) : Json → Except ShapeError α
  | .str s => find s
  | .obj [(name, content)] => do
    let a ← find name
    match content with
    | .null => return a
    | j => .error (.invalidType j "unit")
  | .obj ms => .error (.invalidValue (.obj ms) "map with a single key")
  | j => .error (.invalidType j "string or map")
where
  find (name : String) : Except ShapeError α :=
    match variants.lookup name with
    | some a => .ok a
    | none => .error (.unknownVariant name (variants.map (·.1)))

/-- A field of a record as its value is checked. -/
structure Field where
  name : String
  check : Json → Except ShapeError Unit
  required : Bool

/-- A record by its fields, in their order, and by what its members make when those that have no
default are present. -/
structure Shape (α : Type) where
  fields : List Field
  build : Members → Except ShapeError α

namespace Shape

def optional (name : String) (item : Json → Except ShapeError α) (default : α) : Shape α where
  fields := [⟨name, fun j ↦ (item j).map fun _ ↦ (), false⟩]
  build ms :=
    match ms.get? name with
    | some j => item j
    | none => .ok default

def required (name : String) (item : Json → Except ShapeError α) : Shape α where
  fields := [⟨name, fun j ↦ (item j).map fun _ ↦ (), true⟩]
  build ms :=
    match ms.get? name with
    | some j => item j
    | none => .error (.missingField name)

instance : Applicative Shape where
  pure a := ⟨[], fun _ ↦ .ok a⟩
  seq f a :=
    ⟨f.fields ++ (a ()).fields, fun ms ↦ do return (← f.build ms) (← (a ()).build ms)⟩

/-- The first fault of the members, from the left. -/
def checkMembers (fields : List Field) (ms : Members) : Except ShapeError Unit :=
  ms.forM fun m ↦
    match fields.find? (·.name = m.1) with
    | some f => f.check m.2
    | none => .ok ()

/-- An array that is too short for a field without a default, or too long. -/
def checkLength (name : String) (fields : List Field) (length : Nat) : Except ShapeError Unit :=
  match (fields.drop length).findIdx? (·.required) with
  | some i =>
    .error (.invalidLength (length + i)
      ("struct " ++ name ++ " with " ++ (Json.nat fields.length).print ++ " elements"))
  | none =>
    if fields.length < length then .error (.invalidLength length "fewer elements in array")
    else .ok ()

def read (name : String) (shape : Shape α) : Json → Except ShapeError α
  | .obj ms => do
    checkMembers shape.fields ms
    shape.build ms
  | .arr items => do
    let ms := (shape.fields.map (·.name)).zip items
    checkMembers shape.fields ms
    checkLength name shape.fields items.length
    shape.build ms
  | j => .error (.invalidType j ("struct " ++ name))

end Shape

/-- What stands in a text, taken as a value of some kind. -/
def ofText? (item : Json → Except ShapeError α) (text : String) : Option α :=
  (read text).toOption.bind fun j ↦ (item j).toOption

end EventFeed.Json
