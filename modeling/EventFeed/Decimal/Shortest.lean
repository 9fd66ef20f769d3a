import EventFeed.Decimal.Binary64

/-!
# The shortest decimal that reads back

Among the decimals that round to a given number, `shortest` takes one with the fewest digits, and
of those the nearest, an even last digit where two are equally near. The numbers with `n` digits
form a grid; if a point of the grid rounds to the number, so does one of the two points next to
the number itself, and those two are all that is tested.
-/

namespace EventFeed.Decimal

/-- The decimal `digits * 10 ^ exponent`. -/
structure Scientific where
  digits : Nat
  exponent : Int
  deriving DecidableEq

namespace Binary64

/-- The largest `e` with `10 ^ e ≤ num / den`, for positive `num` and `den`. -/
def floorLog10 (num den : Nat) : Int :=
  if den ≤ num then ((Nat.toDigits 10 (num / den)).length : Int) - 1
  else -((Nat.toDigits 10 ((den - 1) / num)).length : Int)

/-- The decimals that round to the number lie between `low / scale` and `high / scale`. -/
structure Interval where
  low : Nat
  value : Nat
  high : Nat
  scale : Nat
  closed : Bool

/-- Half way to the neighbours. Below a power of two the neighbour is at half the distance. -/
def interval (x : Binary64) : Interval :=
  let unit := Nat.pow 2 x.exponent.toNat
  let below := if x.significand = fractionLimit && 1 < x.exponentField then unit else 2 * unit
  { low := 4 * x.numerator - below
    value := 4 * x.numerator
    high := 4 * x.numerator + 2 * unit
    scale := 4 * x.denominator
    closed := x.significand % 2 == 0 }

namespace Interval

/-- Whether `d * 10 ^ k` lies in the interval. -/
def holds (i : Interval) (d : Nat) (k : Int) : Bool :=
  let point := d * Nat.pow 10 k.toNat * i.scale
  let power := Nat.pow 10 (-k).toNat
  if i.closed then i.low * power ≤ point && point ≤ i.high * power
  else i.low * power < point && point < i.high * power

/-- The point of the grid of step `10 ^ k` that is in the interval and nearest to the value. -/
def nearest? (i : Interval) (k : Int) : Option Nat :=
  let num := i.value * Nat.pow 10 (-k).toNat
  let den := i.scale * Nat.pow 10 k.toNat
  let d := num / den
  match i.holds d k, i.holds (d + 1) k with
  | true, true => some (roundDiv num den)
  | true, false => some d
  | false, true => some (d + 1)
  | false, false => none

end Interval

/-- Seventeen digits tell any two numbers apart. -/
def shortest (x : Binary64) : Scientific :=
  let i := x.interval
  let e := floorLog10 x.numerator x.denominator
  let grids := (List.range 17).map fun (n : Nat) ↦ e - (n : Int)
  (grids.findSome? fun k ↦ (i.nearest? k).map fun d ↦ ⟨d, k⟩).getD ⟨0, 0⟩

end Binary64

end EventFeed.Decimal
