import EventFeed.Proofs.Json.Grammar
import Mathlib.Algebra.Order.Ring.Int
import Mathlib.Algebra.Order.Ring.Nat

/-!
# Reading numbers

`LiteralText.read` and `exists_literalText_of_read`: the reader takes a literal of the grammar, and
takes the whole of it if what follows does not go on as a number. `exists_literalText_intText` says
that an integer that fits 64 bits is printed as a literal with that value, and
`Literal.value_eq_int_iff` which literals have an integer for their value.
-/

namespace EventFeed.Json

/-- After this text in front a literal is at its end. -/
def EndsNumber (rest : List Char) : Prop :=
  ∀ c ∈ rest.head?, isDigit c = false ∧ c ≠ '.' ∧ c ≠ 'e' ∧ c ≠ 'E'

section Parts

variable {below negative : Bool} {cs ds e f rest w : List Char}
  {exponent : Option (Bool × List Char)} {fraction : Option (List Char)} {l : Literal} {mark : Char}

theorem Digits.exists_cons (h : Digits ds) : ∃ d ds', ds = d :: ds' ∧ isDigit d = true := by
  obtain ⟨hne, hds⟩ := h
  obtain ⟨d, ds', rfl⟩ := List.exists_cons_of_ne_nil hne
  exact ⟨d, ds', rfl, hds d List.mem_cons_self⟩

theorem readDigits_eq_ok_iff : readDigits cs = .ok (ds, rest) ↔
    Digits ds ∧ cs = ds ++ rest ∧ ∀ c ∈ rest.head?, isDigit c = false := by
  constructor
  · intro h
    rw [readDigits] at h
    split at h
    · split at h <;> cases h
    · next ds' hne =>
      cases h
      refine ⟨⟨hne, fun d hd ↦ List.mem_takeWhile_imp hd⟩, List.takeWhile_append_dropWhile.symm,
        fun c hc ↦ ?_⟩
      have hfirst := List.head?_dropWhile_not isDigit cs
      rwa [Option.mem_def.1 hc] at hfirst
  · rintro ⟨⟨hne, hds⟩, rfl, hrest⟩
    have hstop : rest.takeWhile isDigit = [] ∧ rest.dropWhile isDigit = rest := by
      cases rest with
      | nil => exact ⟨rfl, rfl⟩
      | cons c rest => simp [hrest c rfl]
    rw [readDigits, List.takeWhile_append_of_pos hds, List.dropWhile_append_of_pos hds, hstop.1,
      hstop.2, List.append_nil]
    split
    · contradiction
    · rfl

theorem readWhole_eq_ok_iff : readWhole cs = .ok (ds, rest) ↔
    WholeDigits ds ∧ cs = ds ++ rest ∧ ∀ c ∈ rest.head?, isDigit c = false := by
  rw [WholeDigits, and_right_comm, ← readDigits_eq_ok_iff, readWhole]
  cases readDigits cs with
  | error e => simp
  | ok p =>
      obtain ⟨ds', rest'⟩ := p
      by_cases hzero : ds'.head? = some '0' ∧ ds'.length ≠ 1
      · simp only [Bool.and_eq_true, decide_eq_true_eq, if_pos hzero, reduceCtorEq, Except.ok.injEq,
          Prod.mk.injEq, false_iff, not_and]
        rintro ⟨rfl, rfl⟩ hlength
        exact hzero.2 (hlength hzero.1)
      · simp only [Bool.and_eq_true, decide_eq_true_eq, hzero, ↓reduceIte, Except.ok.injEq,
          Prod.mk.injEq, iff_self_and, and_imp]
        rintro rfl rfl hhead
        exact not_not.1 fun hlength ↦ hzero ⟨hhead, hlength⟩

theorem exists_fractionText_of_read (h : readFraction cs = .ok (fraction, rest)) :
    ∃ f, FractionText f fraction ∧ cs = f ++ rest := by
  rw [readFraction.eq_def] at h
  split at h
  · next cs' =>
    split at h
    · cases h
    · next ds rest' hread =>
      cases h
      obtain ⟨hds, rfl, -⟩ := readDigits_eq_ok_iff.1 hread
      exact ⟨'.' :: ds, .some hds, rfl⟩
  · cases h
    exact ⟨[], .none, rfl⟩

theorem FractionText.read (h : FractionText f fraction)
    (hrest : ∀ c ∈ rest.head?, isDigit c = false ∧ c ≠ '.') :
    readFraction (f ++ rest) = .ok (fraction, rest) := by
  cases h with
  | none =>
      rw [List.nil_append, readFraction.eq_def]
      split
      · exact absurd rfl (hrest '.' rfl).2
      · rfl
  | some hds =>
      have hread := readDigits_eq_ok_iff.2 ⟨hds, rfl, fun c hc ↦ (hrest c hc).1⟩
      rw [List.cons_append, readFraction.eq_def]
      simp only [hread]

/-- What an exponent is read from once its mark and its sign are read. -/
def readPower (below : Bool) (cs : List Char) :
    Except ReadError (Option (Bool × List Char) × List Char) :=
  match readDigits cs with
  | .error e => .error e
  | .ok (ds, rest) => .ok (some (below, ds), rest)

theorem readExponent_mark (hmark : mark = 'e' ∨ mark = 'E') : readExponent (mark :: cs) =
    match cs with
    | '+' :: ds => readPower false ds
    | '-' :: ds => readPower true ds
    | _ => readPower false cs := by
  rw [readExponent.eq_def]
  simp only [hmark, ← Bool.decide_or, decide_true, ↓reduceIte]
  cases cs with
  | nil => rfl
  | cons c cs =>
      by_cases hplus : c = '+'
      · subst hplus
        rfl
      by_cases hminus : c = '-'
      · subst hminus
        rfl
      split <;> simp_all [readPower]

theorem readPower_eq_ok_iff : readPower below cs = .ok (exponent, rest) ↔
    ∃ ds, Digits ds ∧ exponent = some (below, ds) ∧ cs = ds ++ rest ∧
      ∀ c ∈ rest.head?, isDigit c = false := by
  rw [readPower]
  cases hread : readDigits cs with
  | error e =>
      simp only [reduceCtorEq, false_iff, not_exists]
      rintro ds ⟨hds, -, hcs⟩
      exact nomatch hread.symm.trans (readDigits_eq_ok_iff.2 ⟨hds, hcs⟩)
  | ok p =>
      obtain ⟨ds, rest'⟩ := p
      simp only [Except.ok.injEq, Prod.mk.injEq]
      constructor
      · rintro ⟨rfl, rfl⟩
        obtain ⟨hds, hcs⟩ := readDigits_eq_ok_iff.1 hread
        exact ⟨ds, hds, rfl, hcs⟩
      · rintro ⟨ds', hds, rfl, hcs⟩
        cases hread.symm.trans (readDigits_eq_ok_iff.2 ⟨hds, hcs⟩)
        exact ⟨rfl, rfl⟩

theorem exists_exponentText_of_read (h : readExponent cs = .ok (exponent, rest)) :
    ∃ e, ExponentText e exponent ∧ cs = e ++ rest := by
  cases cs with
  | nil =>
      cases h
      exact ⟨[], .none, rfl⟩
  | cons mark cs =>
      by_cases hmark : mark = 'e' ∨ mark = 'E'
      · rw [readExponent_mark hmark] at h
        split at h
        · obtain ⟨ds, hds, rfl, rfl, -⟩ := readPower_eq_ok_iff.1 h
          exact ⟨_, .some hmark .plus hds, rfl⟩
        · obtain ⟨ds, hds, rfl, rfl, -⟩ := readPower_eq_ok_iff.1 h
          exact ⟨_, .some hmark .minus hds, rfl⟩
        · obtain ⟨ds, hds, rfl, rfl, -⟩ := readPower_eq_ok_iff.1 h
          exact ⟨_, .some hmark .none hds, rfl⟩
      · rw [readExponent.eq_def] at h
        simp only [← Bool.decide_or, hmark, decide_false, Bool.false_eq_true, ↓reduceIte] at h
        cases h
        exact ⟨[], .none, rfl⟩

theorem ExponentText.read (h : ExponentText e exponent) (hrest : EndsNumber rest) :
    readExponent (e ++ rest) = .ok (exponent, rest) := by
  cases h with
  | none =>
      cases rest with
      | nil => rfl
      | cons c rest =>
        obtain ⟨-, -, he, hE⟩ := hrest c rfl
        simp [readExponent, he, hE]
  | @some _ sign below ds hmark hsign hds =>
      have hread : readPower below (ds ++ rest) = .ok (Option.some (below, ds), rest) :=
        readPower_eq_ok_iff.2 ⟨ds, hds, rfl, rfl, fun c hc ↦ (hrest c hc).1⟩
      rw [List.cons_append, List.append_assoc, readExponent_mark hmark]
      cases hsign with
      | plus | minus => exact hread
      | none =>
          obtain ⟨d, ds, rfl, hd⟩ := hds.exists_cons
          rw [List.nil_append, List.cons_append]
          split
          · next heq =>
            cases heq
            exact absurd hd (by decide)
          · next heq =>
            cases heq
            exact absurd hd (by decide)
          · exact hread

/-- What a literal is read from once its sign is read. -/
def readUnsigned (negative : Bool) (cs : List Char) : Except ReadError (Literal × List Char) := do
  let (whole, cs) ← readWhole cs
  let (fraction, cs) ← readFraction cs
  let (exponent, cs) ← readExponent cs
  return (⟨negative, whole, fraction, exponent⟩, cs)

theorem readLiteral_minus : readLiteral ('-' :: cs) = readUnsigned true cs := rfl

theorem readLiteral_of_head? (hcs : cs.head? ≠ some '-') :
    readLiteral cs = readUnsigned false cs := by
  simp only [readLiteral, if_neg hcs]
  rfl

theorem exists_literalText_of_readUnsigned (h : readUnsigned negative cs = .ok (l, rest)) :
    ∃ w, LiteralText (signText negative ++ w) l ∧ cs = w ++ rest := by
  obtain ⟨⟨whole, afterWhole⟩, hwhole, h⟩ := bind_eq_ok_iff.1 h
  obtain ⟨⟨fraction, afterFraction⟩, hfraction, h⟩ := bind_eq_ok_iff.1 h
  obtain ⟨⟨exponent, rest'⟩, hexponent, h⟩ := bind_eq_ok_iff.1 h
  cases h
  obtain ⟨hdigits, rfl, -⟩ := readWhole_eq_ok_iff.1 hwhole
  obtain ⟨f, hf, rfl⟩ := exists_fractionText_of_read hfraction
  obtain ⟨e, he, rfl⟩ := exists_exponentText_of_read hexponent
  exact ⟨whole ++ (f ++ e), .mk hdigits hf he, by simp only [List.append_assoc]⟩

theorem exists_literalText_of_read (h : readLiteral cs = .ok (l, rest)) :
    ∃ w, LiteralText w l ∧ cs = w ++ rest := by
  by_cases hminus : cs.head? = some '-'
  · obtain ⟨cs', rfl⟩ := List.head?_eq_some_iff.1 hminus
    obtain ⟨w, hw, rfl⟩ := exists_literalText_of_readUnsigned (readLiteral_minus ▸ h)
    exact ⟨'-' :: w, hw, rfl⟩
  · obtain ⟨w, hw, rfl⟩ := exists_literalText_of_readUnsigned (readLiteral_of_head? hminus ▸ h)
    exact ⟨w, hw, rfl⟩

theorem LiteralText.read (h : LiteralText w l) (hrest : EndsNumber rest) :
    readLiteral (w ++ rest) = .ok (l, rest) := by
  cases h with
  | @mk whole f fraction e exponent negative hwhole hfraction hexponent =>
      -- What stands after each part does not go on as that part.
      have hafterFraction : ∀ c ∈ (e ++ rest).head?, isDigit c = false ∧ c ≠ '.' := by
        cases hexponent with
        | none => exact fun c hc ↦ ⟨(hrest c hc).1, (hrest c hc).2.1⟩
        | some hmark _ _ =>
            rintro c ⟨⟩
            rcases hmark with rfl | rfl <;> decide
      have hafterWhole : ∀ c ∈ (f ++ (e ++ rest)).head?, isDigit c = false := by
        cases hfraction with
        | none => exact fun c hc ↦ (hafterFraction c hc).1
        | some _ =>
            rintro c ⟨⟩
            decide
      have hunsigned : readUnsigned negative (whole ++ (f ++ (e ++ rest))) =
          .ok (⟨negative, whole, fraction, exponent⟩, rest) := by
        simp only [readUnsigned, readWhole_eq_ok_iff.2 ⟨hwhole, rfl, hafterWhole⟩, ok_bind,
          hfraction.read hafterFraction, hexponent.read hrest]
        rfl
      simp only [List.append_assoc]
      cases negative with
      | true => exact hunsigned
      | false =>
          refine (readLiteral_of_head? ?_).trans hunsigned
          obtain ⟨d, ds, rfl, hd⟩ := hwhole.1.exists_cons
          rintro ⟨⟩
          exact absurd hd (by decide)

end Parts

section Values

variable {k : Int} {l : Literal} {limit n : Nat}

namespace Literal

theorem le_foldl (ds : List Char) (n : Nat) :
    n ≤ ds.foldl (fun n d ↦ n * 10 + digitValue d) n := by
  induction ds generalizing n with
  | nil => exact le_rfl
  | cons d ds ih =>
      have hstep : n ≤ n * 10 + digitValue d := by omega
      exact hstep.trans (ih _)

theorem append_of_lt {ds : List Char}
    (h : ds.foldl (fun n d ↦ n * 10 + digitValue d) n < limit) :
    append limit n ds = (ds.foldl (fun n d ↦ n * 10 + digitValue d) n, ds.length) := by
  induction ds generalizing n with
  | nil => rfl
  | cons d ds ih =>
      have hm : n * 10 + digitValue d < limit := (le_foldl ds _).trans_lt h
      simp only [append, if_pos hm, ih h, List.foldl_cons, List.length_cons]

theorem append_taken_le (ds : List Char) : (append limit n ds).2 ≤ ds.length := by
  induction ds generalizing n with
  | nil => exact le_rfl
  | cons d ds ih =>
      rw [append]
      split
      · exact Nat.add_le_add_right ih 1
      · exact Nat.zero_le _

/-- When all digits are taken, they make the whole number, and it is below the limit. -/
theorem append_of_taken {ds : List Char} (hn : n < limit) (h : (append limit n ds).2 = ds.length) :
    (append limit n ds).1 = ds.foldl (fun n d ↦ n * 10 + digitValue d) n ∧
      (append limit n ds).1 < limit := by
  induction ds generalizing n with
  | nil => exact ⟨rfl, hn⟩
  | cons d ds ih =>
      rw [append] at h ⊢
      split at h
      · next hm =>
        rw [if_pos hm]
        exact ih hm (Nat.add_right_cancel h)
      · cases h

/-- This is about `float` itself and not about its values, of which none has to be computed. -/
theorem float_eq : float = fun negative significand exponent ↦
    match Decimal.Binary64.ofDecimal? negative significand exponent with
    | some x => .ok (.float x)
    | none => .error .numberOutOfRange := rfl

theorem float_ne_int {negative : Bool} {significand : Nat} {exponent : Int} :
    float negative significand exponent ≠ .ok (.int k) := by
  rw [float_eq]
  generalize Decimal.Binary64.ofDecimal? = round
  dsimp only
  split <;> simp

theorem scaled_ne_int {negative : Bool} {significand : Nat} {shift : Int}
    {exponent : Option (Bool × List Char)} :
    scaled negative significand shift exponent ≠ .ok (.int k) := by
  rw [scaled.eq_def]
  split
  · exact float_ne_int
  · simp only
    split
    · exact float_ne_int
    · split <;> simp

theorem value_nonnegative {ds : List Char} (h : natValue ds < wordLimit) :
    value ⟨false, ds, none, none⟩ = .ok (.int (natValue ds)) := by
  have happend : append wordLimit 0 ds = (natValue ds, ds.length) := append_of_lt h
  simp [value, happend]

theorem value_negative {ds : List Char} (hpos : 0 < natValue ds) (hle : natValue ds ≤ 2 ^ 63) :
    value ⟨true, ds, none, none⟩ = .ok (.int (-(natValue ds : Int))) := by
  have hlt : natValue ds < wordLimit := hle.trans_lt (by decide)
  have happend : append wordLimit 0 ds = (natValue ds, ds.length) := append_of_lt hlt
  have hfits : Int64.minValue.toInt ≤ -(natValue ds : Int) := by
    have hmin : Int64.minValue.toInt = -2 ^ 63 := rfl
    omega
  simp only [value, happend, Nat.sub_self, ne_eq, not_true_eq_false, ↓reduceIte, Bool.not_true,
    Bool.false_eq_true, hpos, hfits, decide_true, Bool.and_self]

/-- The literals of integers are those without fraction and exponent whose digits make a number that
fits 64 bits. Minus zero is not among them. -/
theorem value_eq_int_iff : l.value = .ok (.int k) ↔ l.fraction = none ∧ l.exponent = none ∧
    (l.negative = false ∧ k = natValue l.whole ∧ k < 2 ^ 64 ∨
      l.negative = true ∧ k = -(natValue l.whole : Int) ∧ k < 0 ∧ -2 ^ 63 ≤ k) := by
  obtain ⟨negative, whole, fraction, exponent⟩ := l
  have hlimit : wordLimit = 2 ^ 64 := rfl
  have hmin : Int64.minValue.toInt = -2 ^ 63 := rfl
  constructor
  · intro h
    have hle : (append wordLimit 0 whole).2 ≤ whole.length := append_taken_le whole
    rw [value] at h
    simp only at h
    split at h
    · split at h
      · exact absurd h float_ne_int
      · next hdropped =>
        have htaken : (append wordLimit 0 whole).2 = whole.length := by omega
        obtain ⟨hvalue, hlt⟩ := append_of_taken (by decide) htaken
        change _ = natValue whole at hvalue
        rw [hvalue] at h hlt
        refine ⟨rfl, rfl, ?_⟩
        split at h
        · next hsign =>
          cases h
          exact Or.inl ⟨by simpa using hsign, rfl, by omega⟩
        · next hsign =>
          split at h
          · next hfits =>
            cases h
            simp only [Bool.and_eq_true, decide_eq_true_eq] at hfits
            exact Or.inr ⟨by simpa using hsign, rfl, by omega, by omega⟩
          · exact absurd h float_ne_int
    · exact absurd h scaled_ne_int
    · exact absurd h scaled_ne_int
  · rintro ⟨rfl, rfl, ⟨rfl, rfl, hk⟩ | ⟨rfl, rfl, hneg, hk⟩⟩
    · dsimp only at hk ⊢
      exact value_nonnegative (by omega)
    · dsimp only at hneg hk ⊢
      exact value_negative (by omega) (by omega)

theorem bounds_of_value (h : l.value = .ok (.int k)) : -2 ^ 63 ≤ k ∧ k < 2 ^ 64 := by
  obtain ⟨-, -, ⟨-, hvalue, hk⟩ | ⟨-, hvalue, hneg, hk⟩⟩ := value_eq_int_iff.1 h
  · omega
  · omega

end Literal

theorem digitValue_digitChar : ∀ n < 10, digitValue n.digitChar = n := by decide

theorem natValue_toDigits (n : Nat) : Literal.natValue (Nat.toDigits 10 n) = n := by
  induction n using Nat.strongRecOn with
  | ind n ih =>
      rcases Nat.lt_or_ge n 10 with hlt | hge
      · rw [Nat.toDigits_of_lt_base hlt]
        simpa [Literal.natValue] using digitValue_digitChar n hlt
      · have hlast := digitValue_digitChar (n % 10) (by omega)
        have hrest := ih (n / 10) (by omega)
        rw [Literal.natValue] at hrest
        rw [Nat.toDigits_of_base_le (by decide) hge, Literal.natValue, List.foldl_append, hrest]
        simp only [List.foldl_cons, List.foldl_nil, hlast]
        omega

theorem digits_toDigits (n : Nat) : Digits (Nat.toDigits 10 n) := by
  refine ⟨Nat.toDigits_ne_nil, fun d hd ↦ ?_⟩
  have hdigit := Nat.isDigit_of_mem_toDigits (by decide) (by decide) hd
  exact hdigit

theorem head?_toDigits (hn : 0 < n) : (Nat.toDigits 10 n).head? ≠ some '0' := by
  induction n using Nat.strongRecOn with
  | ind n ih =>
      rcases Nat.lt_or_ge n 10 with hlt | hge
      · rw [Nat.toDigits_of_lt_base hlt]
        simp [hn.ne']
      · rw [Nat.toDigits_of_base_le (by decide) hge, List.head?_append,
          Option.or_of_isSome (List.isSome_head?.2 Nat.toDigits_ne_nil)]
        exact ih (n / 10) (by omega) (by omega)

theorem wholeDigits_toDigits (n : Nat) : WholeDigits (Nat.toDigits 10 n) := by
  refine ⟨digits_toDigits n, fun hzero ↦ ?_⟩
  rcases Nat.eq_zero_or_pos n with rfl | hn
  · rfl
  · exact absurd hzero (head?_toDigits hn)

theorem intText_eq (k : Int) :
    intText k = signText (decide (k < 0)) ++ Nat.toDigits 10 k.natAbs := by
  by_cases hk : k < 0 <;> simp [intText, signText, hk]

/-- An integer that fits 64 bits is printed as a literal with that value. -/
theorem exists_literalText_intText (hlow : -2 ^ 63 ≤ k) (hhigh : k < 2 ^ 64) :
    ∃ l, LiteralText (intText k) l ∧ l.value = .ok (.int k) := by
  have htext (negative : Bool) : LiteralText (signText negative ++ Nat.toDigits 10 k.natAbs)
      ⟨negative, Nat.toDigits 10 k.natAbs, none, none⟩ := by
    have h : LiteralText (signText negative ++ (Nat.toDigits 10 k.natAbs ++ ([] ++ [])))
        ⟨negative, Nat.toDigits 10 k.natAbs, none, none⟩ :=
      .mk (wholeDigits_toDigits k.natAbs) .none .none
    rwa [List.append_nil, List.append_nil] at h
  rw [intText_eq]
  refine ⟨_, htext _, Literal.value_eq_int_iff.2 ⟨rfl, rfl, ?_⟩⟩
  rw [natValue_toDigits]
  by_cases hk : k < 0
  · exact Or.inr ⟨decide_eq_true hk, by omega, hk, hlow⟩
  · exact Or.inl ⟨decide_eq_false hk, by omega, hhigh⟩

end Values

end EventFeed.Json
