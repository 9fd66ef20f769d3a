import EventFeed.Text.Alphanumeric
import EventFeed.Text.Pattern.CharClass

/-!
# Patterns

Which texts are regular expressions that a finite automaton can run. Groups have to be closed, the
names of groups differ, and a repetition needs something to repeat. Braces do not occur in the
texts that are read here, so a counted repetition is never complete.
-/

namespace EventFeed.Text

namespace Pattern

/-- A part of an alternative: how deeply it is nested, and whether it can be repeated. -/
structure Part where
  depth : Nat
  repeatable : Bool
  deriving DecidableEq

/-- A group that is open: the mode after it, the depths of its finished alternatives, and the
parts of the one that is being read, the last one first. -/
structure Group where
  after : Mode
  alternatives : List Nat
  parts : List Part
  deriving DecidableEq

namespace Group

def opened (after : Mode) : Group := ⟨after, [], []⟩

def add (g : Group) (depth : Nat) (repeatable : Bool) : Group :=
  { g with parts := ⟨depth, repeatable⟩ :: g.parts }

def finish (g : Group) : List Nat := sideBySide (g.parts.map (·.depth)) :: g.alternatives

def alternative (g : Group) : Group := ⟨g.after, g.finish, []⟩

/-- How deeply the parts inside the parentheses are nested. -/
def inside (g : Group) : Nat := sideBySide g.finish

/-- Repeats the last part. -/
def repeated (g : Group) : Option Group :=
  match g.parts with
  | p :: parts =>
    if p.repeatable then some (add ⟨g.after, g.alternatives, parts⟩ (p.depth + 1) true) else none
  | [] => none

end Group

/-- What an opening parenthesis begins: a group with a mode and perhaps a name, or no group but
another mode for the rest of the one around it. -/
inductive Opening where
  | group (m : Mode) (name : Option (List Char))
  | switch (m : Mode)
  deriving DecidableEq

def isGroupName : List Char → Bool
  | [] => false
  | c :: cs =>
    (isLetter c || c == '_') && cs.all fun c ↦ isAlphanumeric c || c ∈ ['_', '.', '[', ']']

def readName (m : Mode) (cs : List Char) : Option (Opening × List Char) :=
  let name := cs.takeWhile (· ≠ '>')
  match cs.drop name.length with
  | [] => none
  | _ :: rest => if isGroupName name then some (.group m (some name), rest) else none

def readSwitches (m : Mode) (cs : List Char) : Option (Opening × List Char) :=
  let letters := cs.takeWhile fun c ↦ c ≠ ':' && c ≠ ')'
  if !Mode.areSwitches letters then none
  else
    match cs.drop letters.length with
    | [] => none
    | ':' :: rest => some (.group (m.switch letters) none, rest)
    | _ :: rest => if letters.isEmpty then none else some (.switch (m.switch letters), rest)

/-- What follows an opening parenthesis. -/
def readOpening (m : Mode) (cs : List Char) : Option (Opening × List Char) :=
  match m.skip cs with
  | '?' :: '<' :: cs => readName m cs
  | '?' :: 'P' :: '<' :: cs => readName m cs
  | '?' :: cs => readSwitches m cs
  | cs => some (.group m none, cs)

/-- Reads on in the innermost of the open groups, in at most `bound` steps. Gives how deeply the
whole pattern is nested. -/
def read :
    (bound : Nat) → (m : Mode) → (names : List (List Char)) → (inner : Group) →
      (outer : List Group) → List Char → Option Nat
  | 0, _, _, _, _, _ => none
  | bound + 1, m, names, inner, outer, cs =>
    match m.skip cs with
    | [] => if outer.isEmpty then some inner.inside else none
    | c :: cs =>
      if c = '(' then
        match readOpening m cs with
        | some (.group m' name, rest) =>
          if name.any (names.contains ·) then none
          else read bound m' (name.toList ++ names) (.opened m) (inner :: outer) rest
        | some (.switch m', rest) => read bound m' names (inner.add 0 false) outer rest
        | none => none
      else if c = ')' then
        match outer with
        | next :: outer => read bound inner.after names (next.add (inner.inside + 1) true) outer cs
        | [] => none
      else if c = '|' then read bound m names inner.alternative outer cs
      else if c = '*' || c = '+' || c = '?' then
        match inner.repeated with
        | some inner =>
          read bound m names inner outer (if cs.head? = some '?' then cs.tail else cs)
        | none => none
      else if c = '{' then none
      else if c = '[' then
        match readClass m cs with
        | some (depth, rest) => read bound m names (inner.add depth true) outer rest
        | none => none
      else
        match Symbol.read m (c :: cs) with
        | some (s, rest) =>
          if s.isRunnable m then read bound m names (inner.add 0 true) outer rest else none
        | none => none

/-- How many levels of groups, repetitions, classes and parts side by side there may be. -/
def maxDepth : Nat := 250

end Pattern

/-- Whether the text is a regular expression that an automaton can run. -/
def isPattern (cs : List Char) : Bool :=
  (Pattern.read (cs.length + 1) .start [] (.opened .start) [] cs).any (· ≤ Pattern.maxDepth)

end EventFeed.Text
