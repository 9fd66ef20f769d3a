import EventFeed.Telemetry.Config
import EventFeed.Telemetry.Entry
import EventFeed.Text.Alphanumeric
import EventFeed.Text.Pattern

/-!
# Filter directives

A list of directives says how much each part of the program may print. A directive names the start
of the targets that are meant, then in brackets a span and in braces a field, and after `=` the
least urgent level that is printed; all but one of these may be left out. One that is about spans,
or about the value of a field, says nothing about single entries. Of the others that are about an
entry the most specific one decides: the longest target, then the one that names a field.

The parts of a directive are found in the text without the blanks around it, but cut out of the
text as it was given. So blanks in front move every cut to the left, and blanks behind belong to
the last part.
-/

namespace EventFeed.Telemetry

/-- A field that has to be there, and a pattern for its value. -/
structure Condition where
  name : String
  value : Option String
  deriving DecidableEq

structure Directive where
  target : Option String
  span : Option String
  field : Option Condition
  level : Option Level
  deriving DecidableEq

namespace Condition

/-- The digits of a decimal number, with a point and an exponent if it has them. -/
def isUnsignedDecimal (cs : List Char) : Bool :=
  let whole := cs.takeWhile Char.isDigit
  let rest := cs.drop whole.length
  let point := rest.head? = some '.'
  let fraction := if point then rest.tail.takeWhile Char.isDigit else []
  let exponent := if point then rest.tail.drop fraction.length else rest
  !(whole ++ fraction).isEmpty &&
    match exponent with
    | [] => true
    | e :: cs =>
      let digits := if cs.head? = some '+' || cs.head? = some '-' then cs.tail else cs
      (e == 'e' || e == 'E') && !digits.isEmpty && digits.all Char.isDigit

/-- A number with a plus sign, which is no pattern. -/
def isPositive : List Char → Bool
  | '+' :: cs =>
    isUnsignedDecimal cs ||
      ["inf", "infinity", "nan"].contains (String.ofList (Text.asciiLower cs))
  | _ => false

def isValue (s : String) : Bool := isPositive s.toList || Text.isPattern s.toList

/-- What follows a second `=` is passed over. -/
def parse (s : String) : Option Condition :=
  match s.splitOn "=" with
  | name :: value :: _ => if isValue value then some ⟨name, some value⟩ else none
  | [name] => some ⟨name, none⟩
  | [] => none

end Condition

namespace Directive

/-- A level or `off`, by name or by number. -/
def level? (s : String) : Option (Option Level) :=
  match Level.ofText? s with
  | some l => some (some l)
  | none =>
    if Text.asciiLower s.toList = "off".toList || Text.word? s = some 0 then some none else none

def isStart (c : Char) : Bool := Text.isAlphanumeric c || c == '-' || c == ':' || c == '_'

/-- How many bytes the characters take. -/
def width (cs : List Char) : Nat := (String.ofList cs).utf8ByteSize

/-- The bytes from `start` up to `stop`, if they are a text. -/
def cut (s : String) (start stop : Nat) : Option String :=
  String.fromUTF8? (s.toUTF8.extract start stop)

def cutFrom (s : String) (start : Nat) : Option String := cut s start s.utf8ByteSize

/-- The level that starts at a place. Without a level everything is printed. -/
def levelFrom (s : String) (start : Nat) : Option (Option Level) := do
  let text ← cutFrom s start
  if text = "" then some (some .trace) else level? text

/-- The end of a directive: at `place` it is over, or a level follows. -/
def ended (s : String) (place : Nat) (rest : List Char) (d : Directive) : Option Directive :=
  match rest with
  | [] => some d
  | c :: _ =>
    if c = '=' then (levelFrom s (place + 1)).map fun level ↦ { d with level } else none

/-- A span and a field in brackets; `rest` is what follows the opening one, from `place` on. -/
def bracketed (s : String) (target : Option String) (place : Nat) (rest : List Char) :
    Option Directive :=
  let name := rest.takeWhile fun c ↦ c ≠ ']' && c ≠ '{'
  let stop := place + width name
  match rest.drop name.length with
  | ']' :: rest => do
    let span ← cut s place stop
    ended s (stop + 1) rest ⟨target, some span, none, some .trace⟩
  | _ :: rest =>
    let field := rest.takeWhile (· ≠ '}')
    let fieldStop := stop + 1 + width field
    match rest.drop field.length with
    | '}' :: ']' :: rest => do
      if field.isEmpty then none
      let span ← if name.isEmpty then some none else (cut s place stop).map some
      let condition ← Condition.parse (← cut s (stop + 1) fieldStop)
      ended s (fieldStop + 2) rest ⟨target, span, some condition, some .trace⟩
    | _ => none
  | [] => none

def parse (s : String) : Option Directive :=
  let cs := Text.trim s.toList
  let name := cs.takeWhile fun c ↦ c ≠ '=' && c ≠ '['
  match name.head?, cs.drop name.length with
  | none, '[' :: rest => bracketed s none 1 rest
  | none, _ => none
  | some c, rest =>
    if !isStart c then none
    else
      match rest with
      | [] =>
        match level? s with
        | some level => some ⟨none, none, none, level⟩
        | none => some ⟨some s, none, none, some .trace⟩
      | next :: rest => do
        let target ← cut s 0 (width name)
        if next = '[' then bracketed s (some target) (width name + 1) rest
        else
          let level ← levelFrom s (width name + 1)
          return ⟨some target, none, none, level⟩

/-- The parts of a list of directives that are not empty. -/
def pieces (s : String) : List String := (s.splitOn ",").filter (· ≠ "")

/-- Whether the directive is about the entry. -/
def covers (d : Directive) (e : Entry) : Bool :=
  d.span.isNone &&
    (d.target.all fun start ↦ start.toList.isPrefixOf e.target.toList) &&
    d.field.all fun f ↦ f.value.isNone && e.declares f.name

/-- How long a target is; to have none is less than an empty one. -/
def reach (d : Directive) : Nat :=
  match d.target with
  | none => 0
  | some start => start.length + 1

/-- Of two fields the one with the later name counts as more specific. -/
def namesLater : Option Condition → Option Condition → Bool
  | some a, some b => b.name < a.name
  | some _, none => true
  | none, _ => false

/-- Whether the first directive is the more specific of two that are about the same entry. -/
def outranks (d d' : Directive) : Bool :=
  d'.reach < d.reach || (d'.reach == d.reach && namesLater d.field d'.field)

/-- The directive that decides about an entry; of two for the same entries the later one. -/
def deciding (ds : List Directive) (e : Entry) : Option Directive :=
  (ds.filter (·.covers e)).foldl
    (fun best d ↦
      match best with
      | some b => if b.outranks d then some b else some d
      | none => some d)
    none

def allows (ds : List Directive) (e : Entry) : Bool :=
  match (deciding ds e).bind (·.level) with
  | some most => e.level.verbosity ≤ most.verbosity
  | none => false

end Directive

namespace Config

/-- The configured levels written as directives. -/
def directives (c : Config) : String :=
  ",".intercalate (c.level.lowerName ::
    c.parts.map fun part ↦ part.1 ++ "=" ++ part.2.lowerName)

/-- What a variable of the environment asks for takes the place of the configuration, if all of it
can be read. Of the configuration what cannot be read is passed over. -/
def filter (c : Config) (fromEnvironment : Option String) : List Directive :=
  let configured := (Directive.pieces c.directives).filterMap Directive.parse
  match fromEnvironment with
  | none => configured
  | some s => ((Directive.pieces s).mapM Directive.parse).getD configured

end Config

end EventFeed.Telemetry
