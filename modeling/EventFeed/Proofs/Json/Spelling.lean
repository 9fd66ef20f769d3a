import EventFeed.Proofs.Json.Grammar

/-!
# Reading what stands between quotes

`readText_eq_ok_iff`: the reader takes the text up to the first quote that is not escaped, and
takes it for what it spells. `Spelled.escaped` says the same of the printer: what it writes for a
text spells that text.
-/

namespace EventFeed.Json

section Escapes

variable {c d e h₁ h₂ h₃ h₄ : Char} {n u : Nat}

theorem letterEscape?_eq_some_iff : letterEscape? e = some d ↔ (e, d) ∈ escapes := by
  constructor
  · intro h
    unfold letterEscape? at h
    repeat' split at h
    all_goals simp_all [escapes, eq_comm]
  · intro h
    simp only [escapes, List.mem_cons, Prod.mk.injEq, List.not_mem_nil, or_false] at h
    rcases h with ⟨rfl, rfl⟩ | ⟨rfl, rfl⟩ | ⟨rfl, rfl⟩ | ⟨rfl, rfl⟩ | ⟨rfl, rfl⟩ | ⟨rfl, rfl⟩ |
      ⟨rfl, rfl⟩ | ⟨rfl, rfl⟩ <;> rfl

theorem le_and_le_iff {a b : Char} :
    (a ≤ c && c ≤ b) = true ↔ a.toNat ≤ c.toNat ∧ c.toNat ≤ b.toNat := by
  simp [Char.le_def, UInt32.le_iff_toNat_le]

theorem hexDigit_of_toNat (hn : n < 16) (hc : c.toNat = (Nat.digitChar n).toNat ∨
    c.toNat = (Nat.digitChar n).toUpper.toNat) : HexDigit c n :=
  ⟨hn, hc.imp Char.toNat_inj.1 Char.toNat_inj.1⟩

theorem hexDigit?_eq_some_iff : hexDigit? c = some n ↔ HexDigit c n := by
  have hdigits : ∀ n < 16, hexDigit? (Nat.digitChar n) = some n ∧
      hexDigit? (Nat.digitChar n).toUpper = some n := by decide
  constructor
  · intro h
    have hnum : ∀ n < 10, (Nat.digitChar n).toNat = n + 48 := by decide
    have hlower : ∀ n < 6, (Nat.digitChar (n + 10)).toNat = n + 97 := by decide
    have hupper : ∀ n < 6, (Nat.digitChar (n + 10)).toUpper.toNat = n + 65 := by decide
    have hends : '0'.toNat = 48 ∧ '9'.toNat = 57 ∧ 'a'.toNat = 97 ∧ 'f'.toNat = 102 ∧
        'A'.toNat = 65 ∧ 'F'.toNat = 70 := by decide
    simp only [hexDigit?, le_and_le_iff, hends] at h
    split at h
    · next hc =>
      cases h
      exact hexDigit_of_toNat (by omega) (Or.inl (by rw [hnum _ (by omega)]; omega))
    split at h
    · next hc =>
      cases h
      exact hexDigit_of_toNat (by omega) (Or.inl (by rw [hlower _ (by omega)]; omega))
    split at h
    · next hc =>
      cases h
      exact hexDigit_of_toNat (by omega) (Or.inr (by rw [hupper _ (by omega)]; omega))
    · cases h
  · rintro ⟨hn, rfl | rfl⟩
    · exact (hdigits n hn).1
    · exact (hdigits n hn).2

theorem codeUnit?_eq_some_iff : codeUnit? h₁ h₂ h₃ h₄ = some u ↔ CodeUnit h₁ h₂ h₃ h₄ u := by
  simp only [codeUnit?, Option.bind_eq_bind, Option.bind_eq_some_iff, Option.pure_def,
    Option.some.injEq, hexDigit?_eq_some_iff]
  constructor
  · rintro ⟨a, ha, b, hb, c, hc, d, hd, rfl⟩
    have hunit := CodeUnit.mk ha hb hc hd
    rwa [show ((a * 16 + b) * 16 + c) * 16 + d = (a * 16 + b) * 0x100 + (c * 16 + d) by omega]
      at hunit
  · rintro ⟨ha, hb, hc, hd⟩
    exact ⟨_, ha, _, hb, _, hc, _, hd, by omega⟩

theorem isLeading_iff : isLeading u = true ↔ Leading u := by
  simp [isLeading, Leading]

theorem isTrailing_iff : isTrailing u = true ↔ Trailing u := by
  simp [isTrailing, Trailing]

end Escapes

section Steps

variable {pending : Option Nat} {c d e h₁ h₂ h₃ h₄ : Char} {cs m rest w : List Char} {u v : Nat}

theorem readText_quote : readText none ('"' :: cs) = .ok ([], cs) := by
  rw [readText.eq_def]
  simp

theorem readText_plain (hc : IsPlain c) :
    readText none (c :: cs) = readText.cons c (readText none cs) := by
  obtain ⟨hquote, hbackslash, hcontrol⟩ := hc
  rw [readText.eq_def]
  simp [hquote, hbackslash, Nat.not_lt.2 hcontrol]

theorem readText_letter (he : (e, d) ∈ escapes) :
    readText none ('\\' :: e :: cs) = readText.cons d (readText none cs) := by
  have hu : e ≠ 'u' := by
    rintro rfl
    simp [escapes] at he
  rw [readText.eq_def]
  simp [hu, letterEscape?_eq_some_iff.2 he]

theorem readText_unit (hu : CodeUnit h₁ h₂ h₃ h₄ u) (hleading : ¬ Leading u)
    (htrailing : ¬ Trailing u) :
    readText none ('\\' :: 'u' :: h₁ :: h₂ :: h₃ :: h₄ :: cs) =
      readText.cons (Char.ofNat u) (readText none cs) := by
  rw [← isLeading_iff] at hleading
  rw [← isTrailing_iff] at htrailing
  rw [readText.eq_def]
  simp [codeUnit?_eq_some_iff.2 hu, hleading, htrailing]

theorem readText_leading (hu : CodeUnit h₁ h₂ h₃ h₄ u) (hleading : Leading u) :
    readText none ('\\' :: 'u' :: h₁ :: h₂ :: h₃ :: h₄ :: cs) = readText (some u) cs := by
  have htrailing : ¬ isTrailing u = true := by
    rw [isTrailing_iff, Trailing]
    rw [Leading] at hleading
    omega
  rw [readText.eq_def]
  simp [codeUnit?_eq_some_iff.2 hu, isLeading_iff.2 hleading, htrailing]

theorem readText_trailing (hv : CodeUnit h₁ h₂ h₃ h₄ v) (htrailing : Trailing v) :
    readText (some u) ('\\' :: 'u' :: h₁ :: h₂ :: h₃ :: h₄ :: cs) =
      readText.cons (Char.ofNat (pairValue u v)) (readText none cs) := by
  rw [readText.eq_def]
  simp [codeUnit?_eq_some_iff.2 hv, isTrailing_iff.2 htrailing]

theorem cons_eq_ok_iff {r : Except ReadError (List Char × List Char)} :
    readText.cons c r = .ok (m, rest) ↔ ∃ m', r = .ok (m', rest) ∧ m = c :: m' := by
  cases r with
  | error e => simp [readText.cons]
  | ok p =>
      obtain ⟨m', rest'⟩ := p
      simp only [readText.cons, Except.ok.injEq, Prod.mk.injEq]
      constructor
      · rintro ⟨rfl, rfl⟩
        exact ⟨m', ⟨rfl, rfl⟩, rfl⟩
      · rintro ⟨_, ⟨rfl, rfl⟩, rfl⟩
        exact ⟨rfl, rfl⟩

end Steps

theorem readText_spelled (h : Spelled w m) (rest : List Char) :
    readText none (w ++ '"' :: rest) = .ok (m, rest) := by
  induction h with
  | nil => exact readText_quote
  | plain hc _ ih => simp only [List.cons_append, readText_plain hc, ih, readText.cons]
  | letter he _ ih => simp only [List.cons_append, readText_letter he, ih, readText.cons]
  | unit hu hleading htrailing _ ih =>
      simp only [List.cons_append, readText_unit hu hleading htrailing, ih, readText.cons]
  | pair hu hleading hv htrailing _ ih =>
      simp only [List.cons_append, readText_leading hu hleading, readText_trailing hv htrailing, ih,
        readText.cons, pairValue]

/-- What the characters up to the quote spell when a leading surrogate may be pending. -/
def Continues : Option Nat → List Char → List Char → Prop
  | none, w, m => Spelled w m
  | some u, w, m => ∀ h₁ h₂ h₃ h₄, CodeUnit h₁ h₂ h₃ h₄ u → Leading u →
      Spelled ('\\' :: 'u' :: h₁ :: h₂ :: h₃ :: h₄ :: w) m

theorem continues_of_readText {pending : Option Nat} {cs m rest : List Char}
    (h : readText pending cs = .ok (m, rest)) :
    ∃ w, Continues pending w m ∧ cs = w ++ '"' :: rest := by
  fun_induction readText pending cs generalizing m with
  | case1 | case2 | case3 | case4 | case8 | case9 | case10 | case12 | case13 | case15 => cases h
  | case5 h₁ h₂ h₃ h₄ cs u hu htrailing hleading ih =>
      obtain ⟨w, hw, rfl⟩ := ih h
      exact ⟨_, hw h₁ h₂ h₃ h₄ (codeUnit?_eq_some_iff.1 hu) (isLeading_iff.1 hleading), rfl⟩
  | case6 h₁ h₂ h₃ h₄ cs u hu htrailing hleading ih =>
      obtain ⟨m', hread, rfl⟩ := cons_eq_ok_iff.1 h
      obtain ⟨w, hw, rfl⟩ := ih hread
      rw [isLeading_iff] at hleading
      rw [isTrailing_iff] at htrailing
      exact ⟨_, .unit (codeUnit?_eq_some_iff.1 hu) hleading htrailing hw, rfl⟩
  | case7 h₁ h₂ h₃ h₄ cs v u hv htrailing ih =>
      obtain ⟨m', hread, rfl⟩ := cons_eq_ok_iff.1 h
      obtain ⟨w, hw, rfl⟩ := ih hread
      have hv' := codeUnit?_eq_some_iff.1 hv
      rw [isTrailing_iff] at htrailing
      exact ⟨_, fun _ _ _ _ hu hleading ↦ .pair hu hleading hv' htrailing hw, rfl⟩
  | case11 pending e cs he hnone d hd ih =>
      obtain rfl : pending = none := by simpa using hnone
      obtain ⟨m', hread, rfl⟩ := cons_eq_ok_iff.1 h
      obtain ⟨w, hw, rfl⟩ := ih hread
      exact ⟨_, .letter (letterEscape?_eq_some_iff.1 hd) hw, rfl⟩
  | case14 pending cs hnone =>
      obtain rfl : pending = none := by simpa using hnone
      cases h
      exact ⟨[], .nil, rfl⟩
  | case16 pending c cs hbackslash hnone hquote hcontrol ih =>
      obtain rfl : pending = none := by simpa using hnone
      obtain ⟨m', hread, rfl⟩ := cons_eq_ok_iff.1 h
      obtain ⟨w, hw, rfl⟩ := ih hread
      exact ⟨_, .plain ⟨hquote, hbackslash, Nat.not_lt.1 hcontrol⟩ hw, rfl⟩

theorem readText_eq_ok_iff {cs m rest : List Char} :
    readText none cs = .ok (m, rest) ↔ ∃ w, Spelled w m ∧ cs = w ++ '"' :: rest := by
  constructor
  · exact continues_of_readText
  · rintro ⟨w, hw, rfl⟩
    exact readText_spelled hw rest

section Printed

variable {c : Char} {w m : List Char} {n : Nat}

theorem hexDigit_hexDigit (hn : n < 16) : HexDigit (hexDigit n) n := ⟨hn, Or.inl rfl⟩

theorem codeUnit_hexDigit (hn : n < 0x100) :
    CodeUnit '0' '0' (hexDigit (n / 16)) (hexDigit (n % 16)) n := by
  have hzero : HexDigit '0' 0 := hexDigit_hexDigit (by decide)
  have hunit := CodeUnit.mk hzero hzero (hexDigit_hexDigit (n := n / 16) (by omega))
    (hexDigit_hexDigit (n := n % 16) (by omega))
  rwa [show ((0 * 16 + 0) * 16 + n / 16) * 16 + n % 16 = n by omega] at hunit

theorem Spelled.control_append (hc : c.toNat < 0x20) (h : Spelled w m) :
    Spelled ('\\' :: 'u' :: '0' :: '0' :: hexDigit (c.toNat / 16) :: hexDigit (c.toNat % 16) :: w)
      (c :: m) := by
  have hleading : ¬ Leading c.toNat := fun h ↦ by
    rw [Leading] at h
    omega
  have htrailing : ¬ Trailing c.toNat := fun h ↦ by
    rw [Trailing] at h
    omega
  have hunit := Spelled.unit (codeUnit_hexDigit (by omega)) hleading htrailing h
  rwa [Char.ofNat_toNat] at hunit

theorem Spelled.escapeChar_append (c : Char) (h : Spelled w m) :
    Spelled (escapeChar c ++ w) (c :: m) := by
  unfold escapeChar
  by_cases hletter : c ∈ ['"', '\\', '\x08', '\x0c', '\n', '\r', '\t']
  · simp only [List.mem_cons, List.not_mem_nil, or_false] at hletter
    rcases hletter with rfl | rfl | rfl | rfl | rfl | rfl | rfl <;>
      exact .letter (by simp [escapes]) h
  simp only [List.mem_cons, List.not_mem_nil, or_false, not_or] at hletter
  simp only [hletter, ↓reduceIte]
  split
  · next hcontrol => exact h.control_append hcontrol
  · next hcontrol => exact .plain ⟨hletter.1, hletter.2.1, Nat.not_lt.1 hcontrol⟩ h

theorem Spelled.escaped (m : List Char) : Spelled (m.flatMap escapeChar) m := by
  induction m with
  | nil => exact .nil
  | cons c m ih => exact ih.escapeChar_append c

theorem quotedText_quoted (s : String) : QuotedText (quoted s.toList) s := by
  have h := QuotedText.mk (Spelled.escaped s.toList)
  rwa [String.ofList_toList] at h

end Printed

end EventFeed.Json
