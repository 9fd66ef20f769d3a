import EventFeed.Decimal.Shortest

/-!
# Layouts of decimals

The digits of a number are fixed by its value; a `Layout` says how they are laid out. A layout
names the exponents that are written with a plain decimal point, where at least one digit stands
on either side of the point. Other numbers have one digit before the point, if they have a point,
and a signed exponent after an `e`.
-/

namespace EventFeed.Decimal

structure Layout where
  /-- The least exponent of the first digit that is written without an `e`. -/
  leastPlain : Int
  greatestPlain : Int

namespace Layout

def digitsOf (n : Nat) : List Char := Nat.toDigits 10 n

def stripZeros (ds : List Char) : List Char := (ds.reverse.dropWhile (· = '0')).reverse

/-- The digits `ds` with the point after the first `point` of them. -/
def plain (ds : List Char) (point : Int) : List Char :=
  if point ≤ 0 then '0' :: '.' :: (List.replicate (-point).toNat '0' ++ ds)
  else
    let n := point.toNat
    let whole := ds.take n ++ List.replicate (n - ds.length) '0'
    match ds.drop n with
    | [] => whole ++ ['.', '0']
    | fraction => whole ++ '.' :: fraction

def signed (e : Int) : List Char :=
  (if e < 0 then '-' else '+') :: digitsOf e.natAbs

def withExponent (ds : List Char) (e : Int) : List Char :=
  match ds with
  | [] => []
  | [d] => d :: 'e' :: signed e
  | d :: rest => d :: '.' :: rest ++ 'e' :: signed e

def magnitude (layout : Layout) (x : Binary64) : List Char :=
  if x.isZero then ['0', '.', '0']
  else
    let s := x.shortest
    let all := digitsOf s.digits
    let ds := stripZeros all
    let e : Int := s.exponent + all.length - 1
    if layout.leastPlain ≤ e && e ≤ layout.greatestPlain then plain ds (e + 1)
    else withExponent ds e

def text (layout : Layout) (x : Binary64) : List Char :=
  if x.negative then '-' :: layout.magnitude x else layout.magnitude x

end Layout

end EventFeed.Decimal
