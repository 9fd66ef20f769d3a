import EventFeed.Text.Pattern.Symbol

/-!
# Classes of characters

A class stands between brackets: symbols, ranges from one character to another, named sets of ASCII
characters and further classes, put together or joined by operators. After a circumflex it stands
for the characters that are left out. Reading a class gives how deeply its parts are nested.
-/

namespace EventFeed.Text.Pattern

/-- How deeply parts are nested that stand side by side. One part alone is no level of its own. -/
def sideBySide : List Nat → Nat
  | [] => 0
  | [depth] => depth
  | depths => depths.foldl max 0 + 1

/-- A class that is open: its members since the last operator, and what stands before that. -/
structure CharClass where
  left : Option Nat
  members : List Nat
  deriving DecidableEq

namespace CharClass

def add (k : CharClass) (depth : Nat) : CharClass := { k with members := depth :: k.members }

/-- How deeply the parts inside the brackets are nested. -/
def inside (k : CharClass) : Nat :=
  let right := sideBySide k.members
  match k.left with
  | some left => max left right + 1
  | none => right

def join (k : CharClass) : CharClass := ⟨some k.inside, []⟩

def depth (k : CharClass) : Nat := k.inside + 1

def isOperator (c : Char) : Bool := c == '&' || c == '-' || c == '~'

/-- Hyphens at the start of a class stand for themselves. -/
def readHyphens (m : Mode) : (bound : Nat) → List Char → Nat × List Char
  | 0, cs => (0, cs)
  | bound + 1, cs =>
    match m.skip cs with
    | '-' :: cs =>
      let (n, rest) := readHyphens m bound cs
      (n + 1, rest)
    | cs => (0, cs)

/-- What follows an opening bracket: the sign of a complement, then hyphens, or a closing bracket,
that stand for themselves. A complement of bytes holds bytes that are no text. -/
def opening (m : Mode) (cs : List Char) : Option (CharClass × List Char) :=
  let cs := m.skip cs
  let complement := cs.head? = some '^'
  let cs := if complement then cs.tail else cs
  let (hyphens, cs) := readHyphens m (cs.length + 1) cs
  let bracket := hyphens = 0 && cs.head? = some ']'
  let cs := if bracket then cs.tail else cs
  let members := if bracket then 1 else hyphens
  if (complement && !m.characters) || (0 < members && !m.comparesLetters) then none
  else some (⟨none, List.replicate members 0⟩, cs)

def setNames : List String :=
  ["alnum", "alpha", "ascii", "blank", "cntrl", "digit", "graph", "lower", "print", "punct",
    "space", "upper", "word", "xdigit"]

/-- The name of a set between colons and a closing bracket, after the opening one. Gives whether
the set is meant or its complement. -/
def readSet : List Char → Option (Bool × List Char)
  | ':' :: cs =>
    let complement := cs.head? = some '^'
    let cs := if complement then cs.tail else cs
    let name := cs.takeWhile (· ≠ ':')
    match cs.drop name.length with
    | ':' :: ']' :: rest =>
      if setNames.contains (String.ofList name) then some (complement, rest) else none
    | _ => none
  | _ => none

/-- The text after a symbol or a range of characters. -/
def skipMember (m : Mode) (cs : List Char) : Option (List Char) := do
  let (first, rest) ← Symbol.readMember m cs
  if !first.isMember m then none
  else
    match m.skip rest with
    | '-' :: after =>
      if m.peek? after = some ']' || m.peek? after = some '-' then some ('-' :: after)
      else
        let (last, rest) ← Symbol.readMember m (m.skip after)
        let low ← first.char?
        let high ← last.char?
        if last.isMember m && low ≤ high then some rest else none
    | rest => some rest

/-- Reads on in the innermost of the open classes, in at most `bound` steps. Gives how deeply the
outermost is nested, and the text after it. -/
def read (m : Mode) :
    (bound : Nat) → (inner : CharClass) → (outer : List CharClass) → List Char →
      Option (Nat × List Char)
  | 0, _, _, _ => none
  | bound + 1, inner, outer, cs =>
    match m.skip cs with
    | [] => none
    | c :: cs =>
      if c = ']' then
        match outer with
        | [] => some (inner.depth, cs)
        | next :: outer => read m bound (next.add inner.depth) outer cs
      else if c = '[' then
        match readSet cs with
        | some (complement, rest) =>
          if m.comparesLetters && (m.characters || !complement) then
            read m bound (inner.add 0) outer rest
          else none
        | none =>
          match opening m cs with
          | some (k, rest) => read m bound k (inner :: outer) rest
          | none => none
      else if isOperator c && cs.head? = some c then read m bound inner.join outer cs.tail
      else
        match skipMember m (c :: cs) with
        | some rest => read m bound (inner.add 0) outer rest
        | none => none

end CharClass

/-- The class after an opening bracket: how deeply it is nested, and the text after it. -/
def readClass (m : Mode) (cs : List Char) : Option (Nat × List Char) := do
  let (k, rest) ← CharClass.opening m cs
  CharClass.read m (rest.length + 1) k [] rest

end EventFeed.Text.Pattern
