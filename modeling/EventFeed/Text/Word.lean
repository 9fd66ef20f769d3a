/-!
# Words of 64 bits in text

An unsigned number that fits 64 bits: decimal digits after an optional plus sign. Zeros may stand
in front.
-/

namespace EventFeed.Text

def wordLimit : Nat := UInt64.size

def digit? (c : Char) : Option Nat :=
  if '0' ≤ c && c ≤ '9' then some (c.toNat - '0'.toNat) else none

def digits? (cs : List Char) : Option Nat :=
  if cs.isEmpty then none
  else cs.foldlM (fun n c ↦ (digit? c).map (n * 10 + ·)) 0

def word? (s : String) : Option Nat :=
  let digits :=
    match s.toList with
    | '+' :: cs => cs
    | cs => cs
  (digits? digits).filter (· < wordLimit)

end EventFeed.Text
