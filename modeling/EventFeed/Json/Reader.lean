import EventFeed.Json.Number
import EventFeed.Json.Quoted

/-!
# Reading JSON text

The reader works from left to right and stops at the first fault. Each function takes the text
that is left and gives what it read and the text after it. A value may hold others inside it to a
given number of levels; `read` allows 127, and opening one more array or object is a fault.
-/

namespace EventFeed.Json

def isSpace (c : Char) : Bool := c == ' ' || c == '\t' || c == '\n' || c == '\r'

def skipSpace (cs : List Char) : List Char := cs.dropWhile isSpace

/-- `rest` of `true`, `false` and `null`, whose first letter is already read. -/
def readIdent (value : Json) : List Char → List Char → Except ReadError (Json × List Char)
  | [], cs => .ok (value, cs)
  | _ :: _, [] => .error .eofValue
  | w :: word, c :: cs => if c = w then readIdent value word cs else .error .expectedIdent

/-- The values of an array from its first one to the closing bracket, at most `limit` of them. -/
def readItems (item : List Char → Except ReadError (Json × List Char)) :
    (limit : Nat) → List Char → Except ReadError (List Json × List Char)
  | 0, _ => .error .eofList
  | limit + 1, cs => do
    let (value, cs) ← item cs
    match skipSpace cs with
    | [] => .error .eofList
    | c :: cs =>
      if c = ']' then return ([value], cs)
      else if c ≠ ',' then .error .expectedCommaOrBracket
      else if (skipSpace cs).head? = some ']' then .error .trailingComma
      else
        let (values, cs) ← readItems item limit cs
        return (value :: values, cs)

/-- A name, a colon and a value; `cs` starts with the opening quote of the name. -/
def readMember (item : List Char → Except ReadError (Json × List Char)) (cs : List Char) :
    Except ReadError ((String × Json) × List Char) := do
  let (name, cs) ← readText none cs.tail
  match skipSpace cs with
  | [] => .error .eofObject
  | c :: cs =>
    if c ≠ ':' then .error .expectedColon
    else
      let (value, cs) ← item cs
      return ((String.ofList name, value), cs)

/-- The members of an object from its first one to the closing brace, at most `limit` of them. -/
def readMembers (item : List Char → Except ReadError (Json × List Char)) :
    (limit : Nat) → List Char → Except ReadError (List (String × Json) × List Char)
  | 0, _ => .error .eofObject
  | limit + 1, cs => do
    let (member, cs) ← readMember item cs
    match skipSpace cs with
    | [] => .error .eofObject
    | c :: cs =>
      if c = '}' then return ([member], cs)
      else if c ≠ ',' then .error .expectedCommaOrBrace
      else
        match skipSpace cs with
        | [] => .error .eofValue
        | c :: cs =>
          if c = '}' then .error .trailingComma
          else if c ≠ '"' then .error .keyMustBeString
          else
            let (members, cs) ← readMembers item limit (c :: cs)
            return (member :: members, cs)

def readArray (item : List Char → Except ReadError (Json × List Char)) (cs : List Char) :
    Except ReadError (Json × List Char) :=
  match skipSpace cs with
  | [] => .error .eofList
  | c :: cs =>
    if c = ']' then .ok (.arr [], cs)
    else do
      let (values, cs) ← readItems item (c :: cs).length (c :: cs)
      return (.arr values, cs)

def readObject (item : List Char → Except ReadError (Json × List Char)) (cs : List Char) :
    Except ReadError (Json × List Char) :=
  match skipSpace cs with
  | [] => .error .eofObject
  | c :: cs =>
    if c = '}' then .ok (.obj [], cs)
    else if c ≠ '"' then .error .keyMustBeString
    else do
      let (members, cs) ← readMembers item (c :: cs).length (c :: cs)
      return (.obj (Members.ofList members), cs)

/-- A value that is neither an array nor an object and starts with `c`. -/
def readScalar (c : Char) (cs : List Char) : Except ReadError (Json × List Char) :=
  if c = '"' then do
    let (text, cs) ← readText none cs
    return (.str (String.ofList text), cs)
  else if c = 'n' then readIdent .null ['u', 'l', 'l'] cs
  else if c = 't' then readIdent (.bool true) ['r', 'u', 'e'] cs
  else if c = 'f' then readIdent (.bool false) ['a', 'l', 's', 'e'] cs
  else if c = '-' || isDigit c then do
    let (literal, cs) ← readLiteral (c :: cs)
    return (.num (← literal.value), cs)
  else .error .expectedValue

def readValue : (levels : Nat) → List Char → Except ReadError (Json × List Char)
  | 0, cs =>
    match skipSpace cs with
    | [] => .error .eofValue
    | c :: cs => if c = '[' || c = '{' then .error .tooDeep else readScalar c cs
  | levels + 1, cs =>
    match skipSpace cs with
    | [] => .error .eofValue
    | c :: cs =>
      if c = '[' then readArray (readValue levels) cs
      else if c = '{' then readObject (readValue levels) cs
      else readScalar c cs

/-- The value of a whole text whose values stand inside one another to `levels` levels. -/
def readWithin (levels : Nat) (s : String) : Except ReadError Json := do
  let (value, rest) ← readValue levels s.toList
  if (skipSpace rest).isEmpty then return value else .error .trailingCharacters

def read (s : String) : Except ReadError Json := readWithin 127 s

end EventFeed.Json
