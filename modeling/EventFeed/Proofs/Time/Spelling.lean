import EventFeed.Time.Instant
import Mathlib

/-!
# Ways to write an instant

An RFC 3339 text in Coordinated Universal Time shows a second of the calendar, any number of digits
of a fraction, and one of two marks for the zone. A `Spelling` is such a text taken apart. What it
shows is a `Moment`, which need not be a whole number of nanoseconds. Moments come in the order of
time, and one instant is before another exactly if its moment is. An instant writes itself in the
spelling `ofInstant`, with as many digits as it needs and the mark `+00:00`.
-/

namespace EventFeed.Time

/-- A second of the calendar, by its fields, and the part of a second that has gone by since. -/
abbrev Moment := List ℕ ×ₗ ℚ

/-! ## Digits of a fraction -/

def digit (d : Fin 10) : Char := Nat.digitChar d

/-- The part of a second that digits after the point show. -/
def part : List (Fin 10) → ℚ
  | [] => 0
  | d :: ds => (d + part ds) / 10

/-- The last digits of a number, as many as are asked for. -/
def lastDigits : (count : ℕ) → ℕ → List (Fin 10)
  | 0, _ => []
  | count + 1, n => lastDigits count (n / 10) ++ [⟨n % 10, Nat.mod_lt n (by decide)⟩]

/-- The point and the digits, or nothing. -/
def point : List (Fin 10) → List Char
  | [] => []
  | ds => '.' :: ds.map digit

section Digits

variable {d e : Fin 10} {ds : List (Fin 10)} {a b : ℚ} {k n : ℕ}

theorem part_nonneg (ds : List (Fin 10)) : 0 ≤ part ds := by
  induction ds with
  | nil => exact le_rfl
  | cons d ds ih =>
      rw [part]
      positivity

/-- One unit of the last digit more is a second at most. -/
theorem part_add_unit_le_one (ds : List (Fin 10)) : part ds + 1 / 10 ^ ds.length ≤ 1 := by
  induction ds with
  | nil => norm_num [part]
  | cons d ds ih =>
      have hd : (d : ℚ) ≤ 9 := by exact_mod_cast Nat.le_of_lt_succ d.isLt
      have hunit : (1 : ℚ) / 10 ^ (d :: ds).length = 1 / 10 ^ ds.length / 10 := by
        rw [List.length_cons, pow_succ, div_div]
      rw [part, hunit]
      linarith

theorem part_lt_one (ds : List (Fin 10)) : part ds < 1 := by
  have hunit : (0 : ℚ) < 1 / 10 ^ ds.length := by positivity
  linarith [part_add_unit_le_one ds]

theorem part_append (ds es : List (Fin 10)) :
    part (ds ++ es) = part ds + part es / 10 ^ ds.length := by
  induction ds with
  | nil => simp [part]
  | cons d ds ih =>
      rw [List.cons_append, part, part, ih, List.length_cons]
      field_simp
      ring

/-- The first digit decides, unless it is the same. -/
theorem tenth_lt_tenth_iff (ha : 0 ≤ a) (ha' : a < 1) (hb : 0 ≤ b) (hb' : b ≤ 1) :
    (e + a) / 10 < (d + b) / 10 ↔ e < d ∨ e = d ∧ a < b := by
  rw [div_lt_div_iff_of_pos_right (by norm_num)]
  rcases lt_trichotomy e d with hlt | rfl | hgt
  · have hstep : (e : ℚ) + 1 ≤ d := by exact_mod_cast hlt
    exact iff_of_true (by linarith) (Or.inl hlt)
  · simp
  · have hstep : (d : ℚ) + 1 ≤ e := by exact_mod_cast hgt
    refine iff_of_false (by linarith) ?_
    rintro (hlt | ⟨rfl, -⟩)
    · exact hgt.not_gt hlt
    · exact hgt.false

theorem tenth_eq_tenth_iff (ha : 0 ≤ a) (ha' : a < 1) (hb : 0 ≤ b) (hb' : b < 1) :
    (e + a) / 10 = (d + b) / 10 ↔ e = d ∧ a = b := by
  constructor
  · intro h
    have hlt := mt (tenth_lt_tenth_iff ha ha' hb hb'.le).2 h.not_lt
    have hgt := mt (tenth_lt_tenth_iff hb hb' ha ha'.le).2 h.not_gt
    rw [not_or, not_and, not_lt, not_lt] at hlt hgt
    obtain rfl := le_antisymm hgt.1 hlt.1
    exact ⟨rfl, le_antisymm (hgt.2 rfl) (hlt.2 rfl)⟩
  · rintro ⟨rfl, rfl⟩
    rfl

theorem length_lastDigits (k n : ℕ) : (lastDigits k n).length = k := by
  induction k generalizing n with
  | zero => rfl
  | succ k ih => rw [lastDigits, List.length_append, ih, List.length_singleton]

theorem part_lastDigits (h : n < 10 ^ k) : part (lastDigits k n) = n / 10 ^ k := by
  induction k generalizing n with
  | zero =>
      obtain rfl : n = 0 := by simpa using h
      norm_num [lastDigits, part]
  | succ k ih =>
      have hrest : n / 10 < 10 ^ k := by
        rw [pow_succ] at h
        omega
      have hsplit : (n : ℚ) = 10 * (n / 10 : ℕ) + (n % 10 : ℕ) := by
        exact_mod_cast (Nat.div_add_mod n 10).symm
      rw [lastDigits, part_append, ih hrest, length_lastDigits, part, part, hsplit]
      field_simp
      ring

theorem padded_eq (k n : ℕ) : Instant.padded k n = (lastDigits k n).map digit := by
  induction k generalizing n with
  | zero => rfl
  | succ k ih =>
      rw [Instant.padded, ih, lastDigits, List.map_append]
      rfl

theorem point_lastDigits (hk : k ≠ 0) (n : ℕ) :
    point (lastDigits k n) = '.' :: Instant.padded k n := by
  rw [padded_eq]
  cases h : lastDigits k n with
  | nil =>
      have hlength := length_lastDigits k n
      rw [h] at hlength
      exact absurd hlength.symm hk
  | cons d ds => rfl

end Digits

/-! ## Instants -/

namespace Instant

variable {s t : Instant}

/-- The second that the instant falls in. -/
def floor (t : Instant) : Instant := { t with nanos := ⟨0, t.nanos.pos⟩ }

def moment (t : Instant) : Moment := toLex (t.floor.fields, (t.nanos : ℚ) / 10 ^ 9)

/-- How many digits the text of the instant has after the point. -/
def places (t : Instant) : ℕ :=
  if (t.nanos : ℕ) = 0 then 0
  else if (t.nanos : ℕ) % 1000000 = 0 then 3
  else if (t.nanos : ℕ) % 1000 = 0 then 6
  else 9

def digits (t : Instant) : List (Fin 10) := lastDigits t.places (t.nanos / 10 ^ (9 - t.places))

theorem fields_inj : s.fields = t.fields ↔ s = t := by
  obtain ⟨y, mo, d, h, mi, se, n⟩ := s
  obtain ⟨y', mo', d', h', mi', se', n'⟩ := t
  simp [fields, Fin.ext_iff]

/-- To compare instants field by field is to compare their moments. -/
theorem before_iff : s.Before t ↔ s.moment < t.moment := by
  have hpart : (s.nanos : ℚ) / 10 ^ 9 < t.nanos / 10 ^ 9 ↔ (s.nanos : ℕ) < t.nanos := by
    rw [div_lt_div_iff_of_pos_right (by positivity), Nat.cast_lt]
  rw [Before, moment, moment, Prod.Lex.toLex_lt_toLex, hpart]
  simp only [fields, floor, List.cons_lt_cons_iff, List.cons.injEq,
    lt_self_iff_false, and_or_left, or_assoc, and_assoc, and_false, or_false, and_true]

theorem moment_inj : s.moment = t.moment ↔ s = t := by
  refine ⟨fun h ↦ ?_, fun h ↦ h ▸ rfl⟩
  obtain ⟨hfloor, hpart⟩ := Prod.mk.inj (toLex.injective h)
  rw [div_left_inj' (by positivity), Nat.cast_inj, Fin.val_inj] at hpart
  rw [fields_inj, floor, floor, mk.injEq] at hfloor
  obtain ⟨hyear, hmonth, hday, hhour, hminute, hsecond, -⟩ := hfloor
  rw [← fields_inj, fields, fields, hyear, hmonth, hday, hhour, hminute, hsecond, hpart]

theorem length_digits (t : Instant) : t.digits.length = t.places :=
  length_lastDigits t.places _

/-- The digits show the fraction exactly. -/
theorem part_digits (t : Instant) : part t.digits = (t.nanos : ℚ) / 10 ^ 9 := by
  have hlt : (t.nanos : ℕ) < 10 ^ 9 := t.nanos.isLt
  have hdvd : 10 ^ (9 - t.places) ∣ (t.nanos : ℕ) := by
    rw [places]
    split_ifs <;> omega
  obtain ⟨k, hk⟩ := hdvd
  have hplaces : t.places ≤ 9 := by
    rw [places]
    split_ifs <;> omega
  have hpow : 10 ^ (9 - t.places) * 10 ^ t.places = 10 ^ 9 := by
    rw [← pow_add, Nat.sub_add_cancel hplaces]
  have hquot : (t.nanos : ℕ) / 10 ^ (9 - t.places) = k := by
    rw [hk, Nat.mul_div_cancel_left _ (by positivity)]
  have hbound : k < 10 ^ t.places := by
    rw [hk, ← hpow] at hlt
    exact Nat.lt_of_mul_lt_mul_left hlt
  have hpow' : (10 : ℚ) ^ 9 = 10 ^ (9 - t.places) * 10 ^ t.places := by exact_mod_cast hpow.symm
  rw [digits, hquot, part_lastDigits hbound, hk, hpow']
  push_cast
  field_simp

theorem fraction_eq (t : Instant) : fraction t.nanos = point t.digits := by
  rw [fraction, digits, places]
  split_ifs with hzero hmillis hmicros
  · rfl
  · rw [point_lastDigits (by decide)]
    rfl
  · rw [point_lastDigits (by decide)]
    rfl
  · rw [point_lastDigits (by decide), Nat.sub_self, pow_zero, Nat.div_one]

theorem clock_eq (t : Instant) : t.clock = t.floor.clock ++ point t.digits := by
  rw [← fraction_eq]
  simp [clock, floor, fraction]

end Instant

/-! ## Spellings -/

/-- How an instant is marked as one in Coordinated Universal Time. -/
inductive Zone where
  /-- The letter `Z`. -/
  | zulu
  /-- The offset `+00:00`. -/
  | offset
  deriving DecidableEq

def Zone.mark : Zone → List Char
  | .zulu => ['Z']
  | .offset => ['+', '0', '0', ':', '0', '0']

/-- A second, digits of its fraction, and the mark of the zone. -/
structure Spelling where
  start : Instant
  digits : List (Fin 10)
  zone : Zone
  whole : (start.nanos : ℕ) = 0 := by rfl

namespace Spelling

def text (w : Spelling) : String :=
  String.ofList (w.start.clock ++ (point w.digits ++ w.zone.mark))

def moment (w : Spelling) : Moment := toLex (w.start.fields, part w.digits)

/-- The moment that is one unit of the last digit later. -/
def next (w : Spelling) : Moment :=
  toLex (w.start.fields, part w.digits + 1 / 10 ^ w.digits.length)

/-- The instant as it is written. -/
def ofInstant (t : Instant) : Spelling := { start := t.floor, digits := t.digits, zone := .offset }

variable (t : Instant)

theorem text_ofInstant : (ofInstant t).text = t.text := by
  rw [text, Instant.text, t.clock_eq, List.append_assoc]
  rfl

theorem moment_ofInstant : (ofInstant t).moment = t.moment := by
  rw [moment, Instant.moment, ← t.part_digits]
  rfl

end Spelling

end EventFeed.Time
