import EventFeed.Text.Blank

/-!
# Modes of a pattern

A pattern can change how the text after it is read: a question mark and letters at the start of a
group switch modes on, and after a minus sign off. Three of the modes decide which patterns there
are: whether letters match in either case, whether blanks and comments are passed over, and
whether a pattern is about characters or about bytes.
-/

namespace EventFeed.Text.Pattern

structure Mode where
  eitherCase : Bool
  spaced : Bool
  characters : Bool
  deriving DecidableEq

namespace Mode

/-- How a pattern begins. -/
def start : Mode := ⟨false, false, true⟩

/-- The letters of the modes, each at most once, and one minus sign that is not the last. -/
def areSwitches (cs : List Char) : Bool :=
  cs.all (· ∈ ['i', 'm', 's', 'U', 'u', 'R', 'x', '-']) && cs.Nodup && cs.getLast? ≠ some '-'

def switch (m : Mode) (cs : List Char) : Mode :=
  let on := cs.takeWhile (· ≠ '-')
  let off := cs.drop on.length
  let set (letter : Char) (before : Bool) : Bool :=
    on.contains letter || (before && !off.contains letter)
  ⟨set 'i' m.eitherCase, set 'x' m.spaced, set 'u' m.characters⟩

/-- The text after blanks and comments; a comment goes from a number sign to the end of its line. -/
def dropSpace : (inComment : Bool) → List Char → List Char
  | _, [] => []
  | true, c :: cs => dropSpace (c ≠ '\n') cs
  | false, c :: cs =>
    if c = '#' then dropSpace true cs
    else if isBlank c then dropSpace false cs
    else c :: cs

def skip (m : Mode) (cs : List Char) : List Char := if m.spaced then dropSpace false cs else cs

/-- The next character that counts. A look ahead goes past the mark of a comment, but not past its
text. -/
def peek? (m : Mode) (cs : List Char) : Option Char :=
  if m.spaced then
    let shown := cs.filter (!isBlank ·)
    if shown.head? = some '#' then shown.tail.head? else shown.head?
  else cs.head?

end Mode

end EventFeed.Text.Pattern
