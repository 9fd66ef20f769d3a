import EventFeed.Proofs.Json.Integers
import EventFeed.Text.Word

/-!
# Numbers in text

`Numeral text n` says that a text shows a number: the digits that are printed for it, after any
number of zeros and perhaps a plus sign. These texts, and no others, are read as words, if the
number fits 64 bits (`word?_eq_some_iff`).
-/

namespace EventFeed.Text

def Numeral (text : String) (n : Nat) : Prop :=
  ∃ (plus : List Char) (zeros : Nat), (plus = [] ∨ plus = ['+']) ∧
    text.toList = plus ++ (List.replicate zeros '0' ++ Nat.toDigits 10 n)

variable {c : Char} {cs : List Char} {text : String} {n v : Nat}

theorem digit?_eq_some_iff : digit? c = some v ↔ v < 10 ∧ c = v.digitChar := by
  have hdigit : digit? c = if Json.isDigit c then some (Json.digitValue c) else none := rfl
  rw [hdigit]
  constructor
  · intro h
    obtain ⟨hc, ⟨⟩⟩ := Option.ite_none_right_eq_some.1 h
    exact ⟨Json.digitValue_lt hc, (Json.digitChar_digitValue hc).symm⟩
  · rintro ⟨hv, rfl⟩
    have hall : ∀ v < 10, Json.isDigit v.digitChar = true := by decide
    rw [if_pos (hall v hv), Json.digitValue_digitChar v hv]

theorem digits?_concat (cs : List Char) (c : Char) :
    digits? (cs ++ [c]) =
      (if cs = [] then some 0 else digits? cs).bind fun n ↦ (digit? c).map (n * 10 + ·) := by
  cases cs with
  | nil => simp [digits?]
  | cons d cs =>
      rw [if_neg (List.cons_ne_nil d cs), digits?, digits?, List.foldlM_append]
      simp only [List.cons_append, List.isEmpty_cons, Bool.false_eq_true, if_false,
        List.foldlM_cons, List.foldlM_nil, bind_pure]
      rfl

theorem digits?_zeros_append (zeros : Nat) (hcs : cs ≠ []) :
    digits? (List.replicate zeros '0' ++ cs) = digits? cs := by
  induction zeros with
  | zero => rfl
  | succ zeros ih =>
      have hne : List.replicate zeros '0' ++ cs ≠ [] := by simp [hcs]
      rw [← ih, List.replicate_succ, List.cons_append, digits?, digits?]
      simp [hne, digit?]

theorem digits?_toDigits (n : Nat) : digits? (Nat.toDigits 10 n) = some n := by
  induction n using Nat.strong_induction_on with
  | _ n ih =>
      rcases lt_or_ge n 10 with hlt | hge
      · have hdigit : digit? n.digitChar = some n := digit?_eq_some_iff.2 ⟨hlt, rfl⟩
        rw [Nat.toDigits_of_lt_base hlt]
        simp [digits?, hdigit]
      · have hlast : digit? (n % 10).digitChar = some (n % 10) :=
          digit?_eq_some_iff.2 ⟨Nat.mod_lt n (by decide), rfl⟩
        have hvalue : n / 10 * 10 + n % 10 = n := by omega
        rw [Nat.toDigits_of_base_le (by decide) hge, digits?_concat, if_neg Nat.toDigits_ne_nil,
          ih (n / 10) (by omega), hlast, Option.bind_some, Option.map_some, hvalue]

/-- Whatever is read as a number ends in the digits that are printed for it. -/
theorem exists_zeros_of_digits? (h : digits? cs = some n) :
    ∃ zeros, cs = List.replicate zeros '0' ++ Nat.toDigits 10 n := by
  induction cs using List.reverseRecOn generalizing n with
  | nil => cases h
  | append_singleton cs c ih =>
      rw [digits?_concat, Option.bind_eq_some_iff] at h
      obtain ⟨m, hm, h⟩ := h
      obtain ⟨v, hv, rfl⟩ := Option.map_eq_some_iff.1 h
      obtain ⟨hlt, rfl⟩ := digit?_eq_some_iff.1 hv
      by_cases hcs : cs = []
      · rw [if_pos hcs, Option.some.injEq] at hm
        exact ⟨0, by rw [hcs, ← hm, Nat.zero_mul, Nat.zero_add, Nat.toDigits_of_lt_base hlt]; rfl⟩
      · rw [if_neg hcs] at hm
        obtain ⟨zeros, rfl⟩ := ih hm
        rcases Nat.eq_zero_or_pos m with rfl | hpos
        · -- Only zeros have come so far.
          refine ⟨zeros + 1, ?_⟩
          rw [Nat.zero_mul, Nat.zero_add, Nat.toDigits_of_lt_base hlt, Nat.toDigits_of_lt_base
            (by decide), List.replicate_succ']
          rfl
        · have hdiv : (m * 10 + v) / 10 = m := by omega
          have hmod : (m * 10 + v) % 10 = v := by omega
          refine ⟨zeros, ?_⟩
          have hge : 10 ≤ m * 10 + v := by omega
          rw [Nat.toDigits_of_base_le (by decide) hge, hdiv, hmod, List.append_assoc]

theorem digits?_eq_some_iff :
    digits? cs = some n ↔ ∃ zeros, cs = List.replicate zeros '0' ++ Nat.toDigits 10 n := by
  constructor
  · exact exists_zeros_of_digits?
  · rintro ⟨zeros, rfl⟩
    rw [digits?_zeros_append zeros Nat.toDigits_ne_nil, digits?_toDigits]

/-- A digit or nothing comes first, so the plus sign is not one of the digits. -/
theorem head?_numeral (zeros n : Nat) :
    (List.replicate zeros '0' ++ Nat.toDigits 10 n).head? ≠ some '+' := by
  intro hhead
  have hmem := List.mem_of_mem_head? hhead
  rcases List.mem_append.1 hmem with hzero | hdigit
  · exact absurd (List.eq_of_mem_replicate hzero) (by decide)
  · exact absurd ((Json.digits_toDigits n).2 '+' hdigit) (by decide)

theorem word?_eq_some_iff : word? text = some n ↔ Numeral text n ∧ n < 2 ^ 64 := by
  have hlimit : wordLimit = 2 ^ 64 := rfl
  rw [word?, Option.filter_eq_some_iff, decide_eq_true_iff, hlimit, digits?_eq_some_iff]
  refine and_congr_left fun _ ↦ ?_
  rw [Numeral]
  split
  · next cs htext =>
    constructor
    · rintro ⟨zeros, rfl⟩
      exact ⟨['+'], zeros, Or.inr rfl, htext⟩
    · rintro ⟨plus, zeros, rfl | rfl, heq⟩
      · have hhead : (List.replicate zeros '0' ++ Nat.toDigits 10 n).head? = some '+' := by
          rw [← List.nil_append (List.replicate zeros '0' ++ _), ← heq, htext]
          rfl
        exact absurd hhead (head?_numeral zeros n)
      · exact ⟨zeros, List.cons.inj (htext.symm.trans heq) |>.2⟩
  · next hplus =>
    constructor
    · rintro ⟨zeros, heq⟩
      exact ⟨[], zeros, Or.inl rfl, heq⟩
    · rintro ⟨plus, zeros, rfl | rfl, heq⟩
      · exact ⟨zeros, heq⟩
      · exact absurd heq (hplus _)

end EventFeed.Text
