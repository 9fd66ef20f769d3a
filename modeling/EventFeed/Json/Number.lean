import EventFeed.Decimal.Layout
import EventFeed.Json.Basic
import EventFeed.Json.ReadError

/-!
# Numbers in JSON text

A `Literal` is the written form of a number, cut into its parts; `readLiteral` takes the longest
one from the front of a text. `Literal.value` says which number it stands for. A literal without a
fraction and an exponent is an integer if it fits 64 bits, with a sign if it has one; `-0` and all
other literals are floating point. Of a long literal the digits count while the significand fits
64 bits; the integer digits after them count as zeros.
-/

namespace EventFeed.Json

structure Literal where
  negative : Bool
  whole : List Char
  fraction : Option (List Char)
  /-- Whether the exponent has a minus sign, and its digits. -/
  exponent : Option (Bool × List Char)

def isDigit (c : Char) : Bool := '0' ≤ c && c ≤ '9'

def digitValue (c : Char) : Nat := c.toNat - '0'.toNat

namespace Literal

def wordLimit : Nat := UInt64.size

/-- Appends digits to `n` while the result is below the limit: the result, and how many digits
it took. -/
def append (limit : Nat) (n : Nat) : List Char → Nat × Nat
  | [] => (n, 0)
  | d :: ds =>
    let m := n * 10 + digitValue d
    if m < limit then
      let (result, taken) := append limit m ds
      (result, taken + 1)
    else (n, 0)

/-- The number written by digits alone. -/
def natValue (ds : List Char) : Nat := ds.foldl (fun n d ↦ n * 10 + digitValue d) 0

def float (negative : Bool) (significand : Nat) (exponent : Int) : Except ReadError Number :=
  match Decimal.Binary64.ofDecimal? negative significand exponent with
  | some x => .ok (.float x)
  | none => .error .numberOutOfRange

/-- Exponents are kept to 32 bits. One that does not fit makes zero of a number, or an error. -/
def scaled (negative : Bool) (significand : Nat) (shift : Int) :
    Option (Bool × List Char) → Except ReadError Number
  | none => float negative significand shift
  | some (below, ds) =>
    let e := natValue ds
    if (e : Int) ≤ Int32.maxValue.toInt then
      let total : Int := if below then shift - e else shift + e
      float negative significand (max (min total Int32.maxValue.toInt) Int32.minValue.toInt)
    else if significand ≠ 0 && !below then .error .numberOutOfRange
    else .ok (.float (.zero negative))

def value (l : Literal) : Except ReadError Number :=
  let (n, taken) := append wordLimit 0 l.whole
  let dropped := l.whole.length - taken
  match l.fraction, l.exponent with
  | none, none =>
    if dropped ≠ 0 then float l.negative n dropped
    else if !l.negative then .ok (.int n)
    else if 0 < n && Int64.minValue.toInt ≤ -n then .ok (.int (-n))
    else float true n 0
  | none, exponent => scaled l.negative n dropped exponent
  | some ds, exponent =>
    let (n, taken) := append wordLimit n ds
    scaled l.negative n (dropped - taken) exponent

end Literal

/-- The digits at the front, at least one of them. -/
def readDigits (cs : List Char) : Except ReadError (List Char × List Char) :=
  match cs.takeWhile isDigit with
  | [] => if cs.isEmpty then .error .eofValue else .error .invalidNumber
  | ds => .ok (ds, cs.dropWhile isDigit)

/-- The integer part has no leading zero. -/
def readWhole (cs : List Char) : Except ReadError (List Char × List Char) :=
  match readDigits cs with
  | .error e => .error e
  | .ok (ds, rest) =>
    if ds.head? = some '0' && ds.length ≠ 1 then .error .invalidNumber else .ok (ds, rest)

def readFraction : List Char → Except ReadError (Option (List Char) × List Char)
  | '.' :: cs =>
    match readDigits cs with
    | .error e => .error e
    | .ok (ds, rest) => .ok (some ds, rest)
  | cs => .ok (none, cs)

def readExponent : List Char → Except ReadError (Option (Bool × List Char) × List Char)
  | [] => .ok (none, [])
  | c :: cs =>
    if c = 'e' || c = 'E' then
      let (below, digits) :=
        match cs with
        | '+' :: rest => (false, rest)
        | '-' :: rest => (true, rest)
        | _ => (false, cs)
      match readDigits digits with
      | .error e => .error e
      | .ok (ds, rest) => .ok (some (below, ds), rest)
    else .ok (none, c :: cs)

def readLiteral (cs : List Char) : Except ReadError (Literal × List Char) := do
  let (negative, cs) := if cs.head? = some '-' then (true, cs.tail) else (false, cs)
  let (whole, cs) ← readWhole cs
  let (fraction, cs) ← readFraction cs
  let (exponent, cs) ← readExponent cs
  return (⟨negative, whole, fraction, exponent⟩, cs)

/-- Decimals from `0.00001` up to sixteen integer digits are written without an exponent. -/
def numberLayout : Decimal.Layout := ⟨-5, 15⟩

def intText (n : Int) : List Char :=
  if n < 0 then '-' :: Nat.toDigits 10 n.natAbs else Nat.toDigits 10 n.natAbs

def numberText : Number → List Char
  | .int n => intText n
  | .float x => numberLayout.text x

end EventFeed.Json
