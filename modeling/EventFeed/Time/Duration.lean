/-!
# Lengths of time

A duration is a number of nanoseconds. Its text takes the largest of the units s, ms, µs and ns
in which the whole part is not zero, and the fraction without the zeros at its end.
-/

namespace EventFeed.Time

structure Duration where
  nanos : Nat
  deriving DecidableEq

namespace Duration

def ofMillis (n : Nat) : Duration := ⟨n * 1000000⟩

def ofSeconds (seconds nanos : Nat) : Duration := ⟨seconds * 1000000000 + nanos⟩

/-- Whole milliseconds. -/
def millis (d : Duration) : Nat := d.nanos / 1000000

/-- Whole milliseconds, rounded up: when a timer of that length can first be due. -/
def ceilMillis (d : Duration) : Nat := (d.nanos + 999999) / 1000000

@[simp] theorem millis_ofMillis (n : Nat) : (ofMillis n).millis = n := by
  simp [ofMillis, millis]

@[simp] theorem ceilMillis_ofMillis (n : Nat) : (ofMillis n).ceilMillis = n := by
  simp only [ofMillis, ceilMillis]
  omega

theorem ceilMillis_pos {d : Duration} (h : d.nanos ≠ 0) : 0 < d.ceilMillis := by
  rw [ceilMillis]
  exact Nat.div_pos (by omega) (by decide)

theorem nanos_ofMillis_eq_zero_iff (n : Nat) : (ofMillis n).nanos = 0 ↔ n = 0 := by
  simp only [ofMillis]
  omega

/-- `n / 10 ^ places`, with only as many decimals as it needs. -/
def decimal (n places : Nat) : List Char :=
  let whole := Nat.toDigits 10 (n / Nat.pow 10 places)
  let digits := Nat.toDigits 10 (n % Nat.pow 10 places)
  let padded := List.replicate (places - digits.length) '0' ++ digits
  match (padded.reverse.dropWhile (· = '0')).reverse with
  | [] => whole
  | fraction => whole ++ '.' :: fraction

def text (d : Duration) : String :=
  if 1000000000 ≤ d.nanos then String.ofList (decimal d.nanos 9) ++ "s"
  else if 1000000 ≤ d.nanos then String.ofList (decimal d.nanos 6) ++ "ms"
  else if 1000 ≤ d.nanos then String.ofList (decimal d.nanos 3) ++ "µs"
  else String.ofList (decimal d.nanos 0) ++ "ns"

end Duration

end EventFeed.Time
