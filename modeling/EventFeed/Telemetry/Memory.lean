import EventFeed.Json.Printer
import EventFeed.Telemetry.Entry
import EventFeed.Text.Blank
import EventFeed.Time.Instant

/-!
# The memory of recent warnings

Entries that are warnings or errors are kept, the newest first and not more than a given number
of them. Each is numbered when it arrives, from one. A query names what it looks for and how many
records it wants.
-/

namespace EventFeed.Telemetry

structure Record where
  id : Nat
  timestamp : String
  level : String
  target : String
  message : String
  /-- The other values of the entry as a JSON object, if it has any. -/
  fields : Option String
  topic : Option String
  deriving DecidableEq

/-- The values of an entry, sorted into those with a place of their own and the others. -/
structure Collected where
  message : Option String
  topic : Option String
  others : Members

namespace Collected

def empty : Collected := ⟨none, none, []⟩

def trimQuotes (cs : List Char) : List Char :=
  ((cs.dropWhile (· = '"')).reverse.dropWhile (· = '"')).reverse

def other (c : Collected) (name : String) (j : Json) : Collected :=
  { c with others := c.others.insert name j }

/-- A topic that was written out may stand in quotes. Numbers and flags are never message or
topic. -/
def add (c : Collected) (field : String × Value) : Collected :=
  match field with
  | (name, .text s) =>
    if name = "message" then { c with message := some s }
    else if name = "topic" then { c with topic := some s }
    else c.other name (.str s)
  | (name, .shown s) =>
    if name = "message" then { c with message := some s }
    else if name = "topic" then { c with topic := some (String.ofList (trimQuotes s.toList)) }
    else c.other name (.str s)
  | (name, .int n) => c.other name (.num (.int n))
  | (name, .flag b) => c.other name (.bool b)

def ofFields (fields : List (String × Value)) : Collected := fields.foldl add empty

def othersText (c : Collected) : Option String :=
  if c.others.isEmpty then none else some (Json.obj c.others).print

end Collected

namespace Entry

def isKept (e : Entry) : Bool := e.level.verbosity ≤ Level.warn.verbosity

/-- The entry as the record with the given number and time. -/
def toRecord (e : Entry) (id : Nat) (time : Time.Instant) : Record :=
  let c := Collected.ofFields e.values
  { id
    timestamp := time.text
    level := e.level.name
    target := e.target
    message := c.message.getD ""
    fields := c.othersText
    topic := c.topic }

end Entry

structure Memory where
  capacity : Nat
  nextId : Nat
  /-- The newest first. -/
  records : List Record
  deriving DecidableEq

structure Query where
  level : Option String
  target : Option String
  topic : Option String
  since : Option String
  limit : Option Nat
  deriving DecidableEq

namespace Memory

def empty (capacity : Nat) : Memory := ⟨capacity, 1, []⟩

def insert (m : Memory) (record : Nat → Record) : Memory :=
  if m.capacity = 0 then m
  else
    { m with
      nextId := m.nextId + 1
      records := (record m.nextId :: m.records).take m.capacity }

def capture (m : Memory) (time : Time.Instant) (e : Entry) : Memory :=
  if e.isKept then m.insert fun id ↦ e.toRecord id time else m

/-- Whether `sub` stands somewhere in the text. -/
def occursIn (sub : List Char) : List Char → Bool
  | [] => sub.isEmpty
  | c :: cs => sub.isPrefixOf (c :: cs) || occursIn sub cs

end Memory

namespace Query

def all : Query := ⟨none, none, none, none, none⟩

def sameLetters (s t : String) : Bool := Text.asciiLower s.toList = Text.asciiLower t.toList

/-- Times are compared as texts. -/
def accepts (q : Query) (r : Record) : Bool :=
  (q.level.all fun level ↦ sameLetters r.level level) &&
    (q.target.all fun target ↦ Memory.occursIn target.toList r.target.toList) &&
    (q.topic.all fun topic ↦ r.topic = some topic) &&
    (q.since.all fun since ↦ since ≤ r.timestamp)

end Query

/-- The newest first, and a hundred where the query gives no number. -/
def Memory.query (m : Memory) (q : Query) : List Record :=
  (m.records.filter q.accepts).take (q.limit.getD 100)

end EventFeed.Telemetry
