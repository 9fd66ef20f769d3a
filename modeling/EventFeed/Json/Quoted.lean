import EventFeed.Json.ReadError

/-!
# Quoted text in JSON

When a text is written between quotes, the quote, the backslash and the control characters below
U+0020 are escaped and every other character stands for itself. When it is read, any character may
also be escaped as the code units that make it up: `\uXXXX` is one unit, and the two halves of a
surrogate pair must follow each other.
-/

namespace EventFeed.Json

def hexDigit (n : Nat) : Char := Nat.digitChar n

def escapeChar (c : Char) : List Char :=
  if c = '"' then ['\\', '"']
  else if c = '\\' then ['\\', '\\']
  else if c = '\x08' then ['\\', 'b']
  else if c = '\x0c' then ['\\', 'f']
  else if c = '\n' then ['\\', 'n']
  else if c = '\r' then ['\\', 'r']
  else if c = '\t' then ['\\', 't']
  else if c.toNat < 0x20 then
    ['\\', 'u', '0', '0', hexDigit (c.toNat / 16), hexDigit (c.toNat % 16)]
  else [c]

def quoted (cs : List Char) : List Char := '"' :: (cs.flatMap escapeChar ++ ['"'])

def hexDigit? (c : Char) : Option Nat :=
  if '0' ≤ c && c ≤ '9' then some (c.toNat - '0'.toNat)
  else if 'a' ≤ c && c ≤ 'f' then some (c.toNat - 'a'.toNat + 10)
  else if 'A' ≤ c && c ≤ 'F' then some (c.toNat - 'A'.toNat + 10)
  else none

def codeUnit? (a b c d : Char) : Option Nat := do
  let high := (← hexDigit? a) * 16 + (← hexDigit? b)
  let low := (← hexDigit? c) * 16 + (← hexDigit? d)
  return high * 0x100 + low

/-- The fault of an escape that has fewer than four characters left, in which no code unit can be
read: the text ends if fewer than four bytes are left. -/
def shortEscape (cs : List Char) : ReadError :=
  if (String.ofList cs).utf8ByteSize < 4 then .eofString else .invalidEscape

def isLeading (u : Nat) : Bool := 0xD800 ≤ u && u ≤ 0xDBFF

def isTrailing (u : Nat) : Bool := 0xDC00 ≤ u && u ≤ 0xDFFF

def pairValue (leading trailing : Nat) : Nat :=
  (leading - 0xD800) * 0x400 + (trailing - 0xDC00) + 0x10000

/-- The character for an escape of one letter. -/
def letterEscape? (c : Char) : Option Char :=
  if c = '"' then some '"'
  else if c = '\\' then some '\\'
  else if c = '/' then some '/'
  else if c = 'b' then some '\x08'
  else if c = 'f' then some '\x0c'
  else if c = 'n' then some '\n'
  else if c = 'r' then some '\r'
  else if c = 't' then some '\t'
  else none

/-- The characters up to the closing quote. After an escape for a leading surrogate, that code
unit is `pending` until the escape for a trailing one completes it. -/
def readText (pending : Option Nat) : List Char → Except ReadError (List Char × List Char)
  | [] => .error .eofString
  | c :: cs =>
    if c = '\\' then
      match cs with
      | [] => .error .eofString
      | e :: cs =>
        if e = 'u' then
          match cs with
          | h₁ :: h₂ :: h₃ :: h₄ :: cs =>
            match codeUnit? h₁ h₂ h₃ h₄, pending with
            | none, _ => .error .invalidEscape
            | some u, none =>
              if isTrailing u then .error .loneSurrogate
              else if isLeading u then readText (some u) cs
              else cons (Char.ofNat u) (readText none cs)
            | some u, some leading =>
              if isTrailing u then cons (Char.ofNat (pairValue leading u)) (readText none cs)
              else .error .loneSurrogate
          | short => .error (shortEscape short)
        else if pending.isSome then .error .unexpectedEndOfEscape
        else
          match letterEscape? e with
          | some d => cons d (readText none cs)
          | none => .error .invalidEscape
    else if pending.isSome then .error .unexpectedEndOfEscape
    else if c = '"' then .ok ([], cs)
    else if c.toNat < 0x20 then .error .controlCharacter
    else cons c (readText none cs)
where
  cons (c : Char) : Except ReadError (List Char × List Char) →
      Except ReadError (List Char × List Char)
    | .ok (text, rest) => .ok (c :: text, rest)
    | .error e => .error e

end EventFeed.Json
