import EventFeed.Proofs.Json.Reading
import Mathlib.Data.List.Induction

/-!
# Literals of integers

Each integer has exactly one literal, the one that is printed for it (`integerText_iff`), and a text
is read as an integer if it is the literal of one that fits 64 bits (`scalarText_int_iff`). Minus
zero is not the literal of an integer.
-/

namespace EventFeed.Json

/-- Digits without a zero in front of others, after a minus sign if the integer is negative. -/
inductive IntegerText : List Char → Int → Prop
  | natural (hds : WholeDigits ds) : IntegerText ds (Literal.natValue ds)
  | negative (hds : WholeDigits ds) (hpos : 0 < Literal.natValue ds) :
      IntegerText ('-' :: ds) (-(Literal.natValue ds : Int))

variable {d : Char} {ds w : List Char} {k : Int}

theorem isDigit_iff : isDigit d = true ↔ 48 ≤ d.toNat ∧ d.toNat ≤ 57 := by
  rw [isDigit, Bool.and_eq_true, decide_eq_true_iff, decide_eq_true_iff, Char.le_def, Char.le_def,
    UInt32.le_iff_toNat_le, UInt32.le_iff_toNat_le]
  rfl

theorem digitChar_digitValue (hd : isDigit d = true) : (digitValue d).digitChar = d := by
  obtain ⟨hlow, hhigh⟩ := isDigit_iff.1 hd
  have hall : ∀ n < 10, n.digitChar.toNat = 48 + n := by decide
  have hvalue : digitValue d = d.toNat - 48 := rfl
  apply Char.toNat_inj.1
  rw [hall (digitValue d) (by omega), hvalue]
  omega

theorem digitValue_lt (hd : isDigit d = true) : digitValue d < 10 := by
  obtain ⟨-, hhigh⟩ := isDigit_iff.1 hd
  have hvalue : digitValue d = d.toNat - 48 := rfl
  omega

theorem natValue_concat (ds : List Char) (d : Char) :
    Literal.natValue (ds ++ [d]) = Literal.natValue ds * 10 + digitValue d := by
  rw [Literal.natValue, List.foldl_concat, Literal.natValue]

/-- Digits without a zero in front of others are the ones that are printed for their number. -/
theorem toDigits_natValue (h : WholeDigits ds) : Nat.toDigits 10 (Literal.natValue ds) = ds := by
  induction ds using List.reverseRecOn with
  | nil => exact absurd rfl h.1.1
  | append_singleton ds d ih =>
      obtain ⟨⟨-, hdigits⟩, hzero⟩ := h
      have hd : isDigit d = true := hdigits d (by simp)
      have hlt := digitValue_lt hd
      rw [natValue_concat]
      by_cases hds : ds = []
      · subst hds
        have hvalue : Literal.natValue [] * 10 + digitValue d = digitValue d := by
          simp [Literal.natValue]
        rw [hvalue, Nat.toDigits_of_lt_base hlt, digitChar_digitValue hd, List.nil_append]
      · have hhead : ds.head? ≠ some '0' := by
          intro hhead
          have hlength := hzero (by rw [List.head?_append, hhead, Option.some_or])
          rw [List.length_append, List.length_singleton, Nat.add_eq_right] at hlength
          exact hds (List.length_eq_zero_iff.1 hlength)
        have hfront := ih ⟨⟨hds, fun c hc ↦ hdigits c (by simp [hc])⟩, fun h ↦ absurd h hhead⟩
        have hpos : Literal.natValue ds ≠ 0 := by
          intro hnone
          rw [hnone] at hfront
          exact hhead (by rw [← hfront]; rfl)
        have hdiv : (Literal.natValue ds * 10 + digitValue d) / 10 = Literal.natValue ds := by omega
        have hmod : (Literal.natValue ds * 10 + digitValue d) % 10 = digitValue d := by omega
        rw [Nat.toDigits_of_base_le (by decide) (by omega), hdiv, hmod, hfront,
          digitChar_digitValue hd]

/-- An integer has one literal, the one that is printed. -/
theorem integerText_iff : IntegerText w k ↔ w = intText k := by
  constructor
  · intro h
    cases h with
    | natural hds =>
        have hsign : ¬ (Literal.natValue w : Int) < 0 := by omega
        rw [intText, if_neg hsign, Int.natAbs_natCast, toDigits_natValue hds]
    | @negative ds hds hpos =>
        have hsign : -(Literal.natValue ds : Int) < 0 := by omega
        rw [intText, if_pos hsign, Int.natAbs_neg, Int.natAbs_natCast, toDigits_natValue hds]
  · rintro rfl
    have hvalue := natValue_toDigits k.natAbs
    rw [intText]
    split
    · next hneg =>
      have htext := IntegerText.negative (wholeDigits_toDigits k.natAbs) (by omega)
      have hk : -((Literal.natValue (Nat.toDigits 10 k.natAbs) : Nat) : Int) = k := by omega
      rwa [hk] at htext
    · next hnonneg =>
      have htext := IntegerText.natural (wholeDigits_toDigits k.natAbs)
      have hk : ((Literal.natValue (Nat.toDigits 10 k.natAbs) : Nat) : Int) = k := by omega
      rwa [hk] at htext

theorem toList_toString (k : Int) : (toString k).toList = intText k := by
  rw [intText]
  cases k with
  | ofNat n =>
      have hsign : ¬ Int.ofNat n < 0 := Int.not_lt.2 (Int.natCast_nonneg n)
      rw [if_neg hsign]
      exact Nat.toList_repr
  | negSucc n =>
      rw [if_pos (Int.negSucc_lt_zero n)]
      exact String.toList_append.trans (congrArg ('-' :: ·) Nat.toList_repr)

/-- The texts of integers are the literals of those that fit 64 bits. -/
theorem scalarText_int_iff :
    ScalarText w (.num (.int k)) ↔ IntegerText w k ∧ -2 ^ 63 ≤ k ∧ k < 2 ^ 64 := by
  constructor
  · intro h
    cases h with
    | num hliteral hvalue =>
        refine ⟨?_, Literal.bounds_of_value hvalue⟩
        obtain ⟨hfraction, hexponent, hsign⟩ := Literal.value_eq_int_iff.1 hvalue
        cases hliteral with
        | @mk whole _ _ _ _ _ hwhole hf he =>
            dsimp only at hfraction hexponent hsign
            subst hfraction hexponent
            cases hf
            cases he
            rw [List.append_nil, List.append_nil]
            rcases hsign with ⟨rfl, rfl, -⟩ | ⟨rfl, rfl, hneg, -⟩
            · exact .natural hwhole
            · have hpos : 0 < Literal.natValue whole := by omega
              exact .negative hwhole hpos
  · rintro ⟨htext, hlow, hhigh⟩
    obtain ⟨l, hl, hvalue⟩ := exists_literalText_intText hlow hhigh
    rw [integerText_iff.1 htext]
    exact .num hl hvalue

end EventFeed.Json
