import EventFeed.Connection.Backoff
import Mathlib

/-!
# The waits of a backoff

Waits are computed with numbers that have no bound. `delayWord` computes them in words of 64 bits,
with a subtraction that stops at zero, a shift, and a product that stops at the largest word. The
two agree for every attempt, so no step of the second can wrap, and what the first says about the
whole schedule holds for both. The main result is `schedule_doubling`.
-/

namespace EventFeed.Connection.Backoff

open Time (Duration)

/-! ## In words -/

/-- The number as a word, or the largest word if it does not fit one. -/
def cappedWord (n : Nat) : UInt64 := if n < UInt64.size then .ofNat n else .ofNat longest

/-- The product of two words, or the largest word if it does not fit one. -/
def cappedMul (x y : UInt64) : UInt64 :=
  if x.toNat * y.toNat < UInt64.size then x * y else .ofNat longest

/-- The word before, and zero for zero. -/
def cappedPred (n : UInt32) : UInt32 := if n = 0 then 0 else n - 1

/-- The wait before the given try, in milliseconds. -/
def delayWord (b : Backoff) (attempt : UInt32) : UInt64 :=
  cappedMul (cappedWord b.baseDelay.millis) (1 <<< (min (cappedPred attempt) 31).toUInt64)

section Words

variable {n : Nat} {x y : UInt64}

theorem toNat_ofNat_longest : (UInt64.ofNat longest).toNat = longest := by
  decide

theorem toNat_cappedWord (n : Nat) : (cappedWord n).toNat = min n longest := by
  have hsize : longest + 1 = UInt64.size := rfl
  rw [cappedWord]
  split
  · next hfits =>
    rw [UInt64.toNat_ofNat_of_lt' hfits]
    omega
  · rw [toNat_ofNat_longest]
    omega

theorem toNat_cappedMul (x y : UInt64) :
    (cappedMul x y).toNat = min (x.toNat * y.toNat) longest := by
  have hsize : longest + 1 = UInt64.size := rfl
  rw [cappedMul]
  split
  · next hfits =>
    rw [UInt64.toNat_mul, Nat.mod_eq_of_lt hfits]
    omega
  · rw [toNat_ofNat_longest]
    omega

theorem toNat_cappedPred (n : UInt32) : (cappedPred n).toNat = n.toNat - 1 := by
  rw [cappedPred]
  split
  · next hzero =>
    rw [hzero]
    rfl
  · next hne =>
    have hpos : n.toNat ≠ 0 := fun hzero ↦ hne (UInt32.toNat_inj.1 hzero)
    have hle : (1 : UInt32) ≤ n := by
      rw [UInt32.le_iff_toNat_le]
      exact Nat.one_le_iff_ne_zero.2 hpos
    rw [UInt32.toNat_sub_of_le _ _ hle]
    rfl

theorem toNat_min_thirtyOne (n : UInt32) : (min n 31).toNat = min n.toNat 31 := by
  have hbound : (31 : UInt32).toNat = 31 := rfl
  change (if n ≤ 31 then n else 31).toNat = min n.toNat 31
  split
  · next hle =>
    rw [UInt32.le_iff_toNat_le, hbound] at hle
    exact (min_eq_left hle).symm
  · next hnot =>
    rw [UInt32.le_iff_toNat_le, hbound] at hnot
    exact (min_eq_right (Nat.le_of_not_le hnot)).symm

/-- A one that is shifted by less than the length of a word is a power of two. -/
theorem toNat_one_shiftLeft (hx : x.toNat < 64) : ((1 : UInt64) <<< x).toNat = 2 ^ x.toNat := by
  rw [UInt64.toNat_shiftLeft, Nat.mod_eq_of_lt hx, UInt64.toNat_one, Nat.one_shiftLeft]
  exact Nat.mod_eq_of_lt (Nat.pow_lt_pow_right (by decide) hx)

end Words

/-! ## The schedule -/

section Schedule

variable (b : Backoff) {k m n : Nat}

theorem delayMillis_eq (n : Nat) :
    b.delayMillis n = min (b.baseMillis * 2 ^ min (n - 1) 31) longest := rfl

theorem toNat_delayWord (attempt : UInt32) :
    (b.delayWord attempt).toNat = b.delayMillis attempt.toNat := by
  have hexponent : (min (cappedPred attempt) 31).toUInt64.toNat = min (attempt.toNat - 1) 31 := by
    rw [UInt32.toNat_toUInt64, toNat_min_thirtyOne, toNat_cappedPred]
  have hsmall : (min (cappedPred attempt) 31).toUInt64.toNat < 64 := by omega
  calc (b.delayWord attempt).toNat
      = min ((cappedWord b.baseDelay.millis).toNat *
          ((1 : UInt64) <<< (min (cappedPred attempt) 31).toUInt64).toNat) longest :=
        toNat_cappedMul _ _
    _ = min (b.baseMillis * 2 ^ min (attempt.toNat - 1) 31) longest := by
        rw [toNat_cappedWord, toNat_one_shiftLeft hsmall, hexponent, baseMillis]
    _ = b.delayMillis attempt.toNat := (b.delayMillis_eq attempt.toNat).symm

theorem monotone_delayMillis : Monotone b.delayMillis := by
  intro m n hle
  rw [delayMillis_eq, delayMillis_eq]
  have hexponent : min (m - 1) 31 ≤ min (n - 1) 31 := by omega
  apply min_le_min_right
  apply Nat.mul_le_mul_left
  exact Nat.pow_le_pow_right (by decide) hexponent

theorem delayMillis_succ (hpos : 1 ≤ n) (hlt : n < 32) :
    b.delayMillis (n + 1) = min (2 * b.delayMillis n) longest := by
  have hnext : min (n + 1 - 1) 31 = min (n - 1) 31 + 1 := by omega
  have hdouble : b.baseMillis * 2 ^ (min (n - 1) 31 + 1) =
      2 * (b.baseMillis * 2 ^ min (n - 1) 31) := by
    ring
  rw [delayMillis_eq, delayMillis_eq, hnext, hdouble]
  omega

theorem baseMillis_le_delayMillis (n : Nat) : b.baseMillis ≤ b.delayMillis n := by
  rw [delayMillis_eq]
  apply le_min
  · exact Nat.le_mul_of_pos_right _ (Nat.two_pow_pos _)
  · exact min_le_right _ _

variable {b}

/-- A wait is the exact multiple of a base delay of whole milliseconds if that fits a word. -/
theorem nanos_delayMillis_iff (hbase : b.baseDelay = .ofMillis k) (hpos : 1 ≤ n) (hle : n ≤ 32) :
    (Duration.ofMillis (b.delayMillis n)).nanos = b.baseDelay.nanos * 2 ^ (n - 1) ↔
      k * 2 ^ (n - 1) ≤ longest := by
  have hmillis : b.baseMillis = min k longest := by
    rw [baseMillis, hbase, Duration.millis_ofMillis]
  have hexponent : min (n - 1) 31 = n - 1 := by omega
  have hfactor : k ≤ k * 2 ^ (n - 1) := Nat.le_mul_of_pos_right _ (Nat.two_pow_pos _)
  have hnanos : b.baseDelay.nanos * 2 ^ (n - 1) = k * 2 ^ (n - 1) * 1000000 := by
    rw [hbase, Duration.ofMillis]
    ring
  have hdelay : (Duration.ofMillis (b.delayMillis n)).nanos = b.delayMillis n * 1000000 := rfl
  rw [hdelay, hnanos, Nat.mul_left_inj (by decide), delayMillis_eq, hexponent, hmillis]
  constructor
  · intro heq
    rw [← heq]
    exact min_le_right _ _
  · intro hfits
    rw [min_eq_left (hfactor.trans hfits), min_eq_left hfits]

end Schedule

/-- Waits that double from one try to the next and stay within a word. -/
structure Doubling (b : Backoff) : Prop where
  exact (n : Nat) : b.delayMillis n =
    min (min b.baseDelay.millis (2 ^ 64 - 1) * 2 ^ min (max n 1 - 1) 31) (2 ^ 64 - 1)
  words (n : UInt32) : (b.delayWord n).toNat = b.delayMillis n.toNat
  monotone : Monotone b.delayMillis
  doubles {n : Nat} (hpos : 1 ≤ n) (hlt : n < 32) :
    b.delayMillis (n + 1) = min (2 * b.delayMillis n) (2 ^ 64 - 1)
  least (n : Nat) : min b.baseDelay.millis (2 ^ 64 - 1) ≤ b.delayMillis n
  whole {k n : Nat} (hbase : b.baseDelay = .ofMillis k) (hpos : 1 ≤ n) (hle : n ≤ 32) :
    (Duration.ofMillis (b.delayMillis n)).nanos = b.baseDelay.nanos * 2 ^ (n - 1) ↔
      k * 2 ^ (n - 1) ≤ 2 ^ 64 - 1

/-- The waits of every backoff double exactly until they no longer fit a word. They are the same in
words, never shorter than the base delay, and multiples of it where it is whole milliseconds. -/
theorem schedule_doubling (b : Backoff) : b.Doubling where
  exact n := by
    have hfirst : max n 1 - 1 = n - 1 := by omega
    rw [hfirst]
    exact b.delayMillis_eq n
  words := b.toNat_delayWord
  monotone := b.monotone_delayMillis
  doubles := b.delayMillis_succ
  least := b.baseMillis_le_delayMillis
  whole := nanos_delayMillis_iff

/-- The fourth wait is the last that fits: the fifth would be the first number that is no word. -/
theorem doubling_at_limit :
    let b : Backoff := ⟨9, .ofMillis (2 ^ 60)⟩
    b.delayMillis 5 = min (2 * b.delayMillis 4) (2 ^ 64 - 1) ∧ b.delayMillis 4 = 2 ^ 63 ∧
      (b.delayWord 5).toNat = 2 ^ 64 - 1 ∧
      (Duration.ofMillis (b.delayMillis 4)).nanos = b.baseDelay.nanos * 2 ^ 3 := by
  intro b
  have hwords := (schedule_doubling b).words 5
  have hwhole := (schedule_doubling b).whole (k := 2 ^ 60) (n := 4) rfl (by decide) (by decide)
  exact ⟨(schedule_doubling b).doubles (by decide) (by decide), by decide,
    hwords.trans (by decide), hwhole.2 (by decide)⟩

end EventFeed.Connection.Backoff
