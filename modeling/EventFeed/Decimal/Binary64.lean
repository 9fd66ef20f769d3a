/-!
# Finite floating point numbers of 64 bits

A number is a sign and the lower 63 bits of its word, read as one number: eleven bits of exponent
above 52 bits of fraction. A larger word is a larger magnitude, so rounding that carries into the
exponent needs no case of its own. Every operation is exact arithmetic on natural numbers followed
by one rounding to the nearest number, ties to the even one.
-/

namespace EventFeed.Decimal

/-- The fractions are below this one. -/
def fractionLimit : Nat := Nat.pow 2 52

/-- The words below this one are the finite magnitudes. -/
def infiniteWord : Nat := 2047 * fractionLimit

structure Binary64 where
  negative : Bool
  word : Fin infiniteWord
  deriving DecidableEq

namespace Binary64

def exponentField (x : Binary64) : Nat := x.word.val / fractionLimit

/-- The magnitude is `significand * 2 ^ exponent`. -/
def significand (x : Binary64) : Nat :=
  if x.exponentField = 0 then x.word.val else fractionLimit + x.word.val % fractionLimit

def exponent (x : Binary64) : Int := (x.exponentField.max 1 : Int) - 1075

/-- The magnitude as a quotient of natural numbers. -/
def numerator (x : Binary64) : Nat := x.significand * Nat.pow 2 x.exponent.toNat

def denominator (x : Binary64) : Nat := Nat.pow 2 (-x.exponent).toNat

/-- The quotient to the nearest natural number, ties to the even one. -/
def roundDiv (num den : Nat) : Nat :=
  let low := num / den
  let twice := 2 * (num % den)
  if twice < den then low
  else if den < twice then low + 1
  else if low % 2 = 0 then low else low + 1

/-- The largest `e` with `2 ^ e ≤ num / den`. -/
def floorLog2 (num den : Nat) : Int :=
  let e : Int := (num.log2 : Int) - den.log2
  if num * Nat.pow 2 (-e).toNat < den * Nat.pow 2 e.toNat then e - 1 else e

/-- The number nearest to `num / den`, unless that magnitude is too large. -/
def ofRatio? (negative : Bool) (num den : Nat) : Option Binary64 :=
  let q : Int := if num = 0 then -1074 else max (floorLog2 num den - 52) (-1074)
  let word := (q + 1074).toNat * fractionLimit +
    roundDiv (num * Nat.pow 2 (-q).toNat) (den * Nat.pow 2 q.toNat)
  if h : word < infiniteWord then some ⟨negative, ⟨word, h⟩⟩ else none

def zero (negative : Bool) : Binary64 := ⟨negative, ⟨0, by decide⟩⟩

def isZero (x : Binary64) : Bool := x.word.val == 0

/-- The magnitudes of a product and a quotient under the sign of the first operand. -/
def mul? (x y : Binary64) : Option Binary64 :=
  ofRatio? x.negative (x.numerator * y.numerator) (x.denominator * y.denominator)

def div? (x y : Binary64) : Option Binary64 :=
  ofRatio? x.negative (x.numerator * y.denominator) (x.denominator * y.numerator)

/-- The number nearest to `significand * 10 ^ exponent` up to one rounding of the significand, one
of the power of ten and one of their product or quotient; `none` where that is too large. Below
the least power of ten the quotient is taken in two steps. -/
def ofDecimal? (negative : Bool) (significand : Nat) (exponent : Int) : Option Binary64 := do
  let x ← ofRatio? negative significand 1
  if 308 < exponent then
    if x.isZero then some x else none
  else if 0 ≤ exponent then
    x.mul? (← ofRatio? false (Nat.pow 10 exponent.toNat) 1)
  else if -308 ≤ exponent then
    x.div? (← ofRatio? false (Nat.pow 10 (-exponent).toNat) 1)
  else if -616 ≤ exponent then
    let y ← x.div? (← ofRatio? false (Nat.pow 10 308) 1)
    y.div? (← ofRatio? false (Nat.pow 10 (-exponent - 308).toNat) 1)
  else some (zero negative)

end Binary64

end EventFeed.Decimal
