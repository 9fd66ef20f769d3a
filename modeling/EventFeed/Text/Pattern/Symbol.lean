import EventFeed.Text.Pattern.Mode

/-!
# Symbols of a pattern

The smallest parts of a pattern: characters that stand for themselves, signs for many characters,
and places between characters. Which of them an automaton can run depends on the mode, for two
reasons. No table of characters is at hand, so digits, blanks and the characters of words are only
known among bytes, and so are the two cases of a letter. And what matches has to be text, so a
pattern about bytes may not match a byte that is no character of its own.
-/

namespace EventFeed.Text.Pattern

inductive Symbol where
  | char (c : Char)
  /-- A character that was written by the two digits of a byte. -/
  | byte (c : Char)
  | any
  /-- The digits, the blanks or the characters of words, or all others. -/
  | kind (others : Bool)
  /-- The start or the end of a text or a line. -/
  | limit
  /-- A place where a word starts or ends, or no such place. -/
  | boundary
  deriving DecidableEq

/-- Whether an automaton can compare characters with a letter. -/
def Mode.comparesLetters (m : Mode) : Bool := !(m.eitherCase && m.characters)

def isAscii (c : Char) : Bool := c.toNat < 0x80

namespace Symbol

/-- Whether the symbol can stand by itself. -/
def isRunnable (m : Mode) : Symbol → Bool
  | .char _ => m.comparesLetters
  | .byte c => m.comparesLetters && (m.characters || isAscii c)
  | .any => m.characters
  | .kind others => !m.characters && !others
  | .limit => true
  | .boundary => !m.characters

/-- Whether the symbol can be a member of a class. -/
def isMember (m : Mode) : Symbol → Bool
  | .char c | .byte c => m.comparesLetters && (m.characters || isAscii c)
  | .kind others => !m.characters && !others
  | .any | .limit | .boundary => false

/-- The character that the symbol stands for, if it is only one. -/
def char? : Symbol → Option Char
  | .char c | .byte c => some c
  | .any | .kind _ | .limit | .boundary => none

def hexDigit? (c : Char) : Option Nat :=
  if c.isDigit then some (c.toNat - '0'.toNat)
  else if 'a' ≤ c.toLower && c.toLower ≤ 'f' then some (c.toLower.toNat - 'a'.toNat + 10)
  else none

/-- The number that is written in as many digits after the ones read before. -/
def readHex (m : Mode) :
    (digits : Nat) → (before : Nat) → List Char → Option (Nat × List Char)
  | 0, n, cs => some (n, cs)
  | digits + 1, n, cs =>
    match m.skip cs with
    | [] => none
    | c :: cs =>
      match hexDigit? c with
      | some d => readHex m digits (n * 16 + d) cs
      | none => none

def readCode (m : Mode) (digits : Nat) (cs : List Char) : Option (Char × List Char) := do
  let (n, rest) ← readHex m digits 0 cs
  if n.isValidChar then some (Char.ofNat n, rest) else none

/-- ASCII characters that stand for themselves after a backslash. -/
def isEscapable (c : Char) : Bool := isAscii c && !c.isAlphanum && c ≠ '<' && c ≠ '>'

def control? (c : Char) : Option Char :=
  [('a', '\x07'), ('f', '\x0c'), ('t', '\t'), ('n', '\n'), ('r', '\r'), ('v', '\x0b')].lookup c

/-- What stands after a backslash. Properties of characters need a table and are left out. -/
def readEscape (m : Mode) : List Char → Option (Symbol × List Char)
  | [] => none
  | c :: cs =>
    if c = 'x' then (readCode m 2 cs).map fun r ↦ (.byte r.1, r.2)
    else if c = 'u' then (readCode m 4 cs).map fun r ↦ (.char r.1, r.2)
    else if c = 'U' then (readCode m 8 cs).map fun r ↦ (.char r.1, r.2)
    else if c ∈ ['d', 's', 'w'] then some (.kind false, cs)
    else if c ∈ ['D', 'S', 'W'] then some (.kind true, cs)
    else if c ∈ ['A', 'z'] then some (.limit, cs)
    else if c ∈ ['b', 'B', '<', '>'] then some (.boundary, cs)
    else if isEscapable c then some (.char c, cs)
    else (control? c).map fun d ↦ (.char d, cs)

/-- The first symbol of a text outside classes. -/
def read (m : Mode) : List Char → Option (Symbol × List Char)
  | [] => none
  | c :: cs =>
    if c = '\\' then readEscape m cs
    else if c = '.' then some (.any, cs)
    else if c = '^' || c = '$' then some (.limit, cs)
    else some (.char c, cs)

/-- The first symbol of a text inside a class, where only the backslash is special. -/
def readMember (m : Mode) : List Char → Option (Symbol × List Char)
  | [] => none
  | c :: cs => if c = '\\' then readEscape m cs else some (.char c, cs)

end Symbol

end EventFeed.Text.Pattern
