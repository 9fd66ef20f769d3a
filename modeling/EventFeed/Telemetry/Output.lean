import EventFeed.Telemetry.Directive
import EventFeed.Telemetry.Memory

/-!
# Log output

Entries that the filter lets through are printed, one line each, as text or as a JSON object.
The memory of recent warnings sees every entry, whatever the filter says.
-/

namespace EventFeed.Telemetry

structure Output where
  json : Bool
  filter : List Directive
  memory : Option Memory
  deriving DecidableEq

namespace Output

def ofConfig (c : Config) (fromEnvironment : Option String) : Output where
  json := c.json
  filter := c.filter fromEnvironment
  memory := if c.captureRecent = 0 then none else some (.empty c.captureRecent)

def intText (n : Int) : String := (Json.num (.int n)).print

def valueText : Value → String
  | .text s => Text.quote s
  | .shown s => s
  | .int n => intText n
  | .flag b => (Json.bool b).print

def valueJson : Value → Json
  | .text s => .str s
  | .shown s => .str s
  | .int n => .num (.int n)
  | .flag b => .bool b

/-- A character that a terminal would obey is written by its number. -/
def inertChar (c : Char) : List Char :=
  if c.toNat ∈ [0x07, 0x08, 0x0C, 0x1B, 0x7F] then
    ['\\', 'x', Nat.digitChar (c.toNat / 16), Nat.digitChar (c.toNat % 16)]
  else if 0x80 ≤ c.toNat && c.toNat ≤ 0x9F then
    ['\\', 'u', '{'] ++ Text.hexDigits c.toNat ++ ['}']
  else [c]

def inert (s : String) : String := String.ofList (s.toList.flatMap inertChar)

/-- The message stands without its name and without quotes. -/
def fieldText : String × Value → String
  | ("message", .text s) => inert s
  | ("message", v) => inert (valueText v)
  | (name, v) => name ++ "=" ++ valueText v

/-- A line of text after the time: the level in five columns, the target and the fields. -/
def textLine (e : Entry) : String :=
  let level := e.level.name
  String.ofList (List.replicate (5 - level.length) ' ') ++ level ++ " " ++ e.target ++ ": " ++
    " ".intercalate (e.values.map fieldText)

/-- A line of JSON without the time. -/
def jsonLine (e : Entry) : Json :=
  .obj [("level", .str e.level.name),
    ("fields", .obj (Members.ofList (e.values.map fun f ↦ (f.1, valueJson f.2)))),
    ("target", .str e.target)]

/-- The line for an entry, if it is printed. -/
def line? (o : Output) (e : Entry) : Option (String ⊕ Json) :=
  if Directive.allows o.filter e then
    some (if o.json then .inr (jsonLine e) else .inl (textLine e))
  else none

def log (o : Output) (time : Time.Instant) (e : Entry) : Output :=
  { o with memory := o.memory.map fun m ↦ m.capture time e }

end Output

end EventFeed.Telemetry
