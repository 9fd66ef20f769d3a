import EventFeed.Json.Reader
import EventFeed.Proofs.Json.Members
import Mathlib.Data.List.TakeWhile

/-!
# The grammar of JSON text

Which texts stand for which values. Each predicate relates a piece of text to what it stands for.
`ValueText levels` is about texts in which values stand inside one another to `levels` levels, and
`Written levels` allows blanks around such a text. Of the members of an object that have one name
the last counts, which is what `Members.Latest` says.
-/

namespace EventFeed.Json

def Blank (cs : List Char) : Prop := ∀ c ∈ cs, isSpace c = true

/-- A text with blanks around it. -/
inductive Padded (one : List Char → α → Prop) : List Char → α → Prop
  | mk (hbefore : Blank before) (h : one w a) (hafter : Blank after) :
      Padded one (before ++ (w ++ after)) a

/-- At least one text, with commas between. -/
inductive Separated (one : List Char → α → Prop) : List Char → List α → Prop
  | single (h : one w a) : Separated one w [a]
  | cons (h : one w a) (hs : Separated one ws as) : Separated one (w ++ ',' :: ws) (a :: as)

/-- The characters that stand for themselves between quotes. -/
def IsPlain (c : Char) : Prop := c ≠ '"' ∧ c ≠ '\\' ∧ 0x20 ≤ c.toNat

/-- The letters that stand for characters after a backslash. -/
def escapes : List (Char × Char) :=
  [('"', '"'), ('\\', '\\'), ('/', '/'), ('b', '\x08'), ('f', '\x0c'), ('n', '\n'), ('r', '\r'),
    ('t', '\t')]

def HexDigit (c : Char) (n : Nat) : Prop :=
  n < 16 ∧ (c = Nat.digitChar n ∨ c = (Nat.digitChar n).toUpper)

/-- A code unit of UTF-16 by its four digits. -/
inductive CodeUnit : Char → Char → Char → Char → Nat → Prop
  | mk (ha : HexDigit h₁ a) (hb : HexDigit h₂ b) (hc : HexDigit h₃ c) (hd : HexDigit h₄ d) :
      CodeUnit h₁ h₂ h₃ h₄ (((a * 16 + b) * 16 + c) * 16 + d)

def Leading (u : Nat) : Prop := 0xD800 ≤ u ∧ u ≤ 0xDBFF

def Trailing (u : Nat) : Prop := 0xDC00 ≤ u ∧ u ≤ 0xDFFF

/-- What stands between quotes, and what it spells. -/
inductive Spelled : List Char → List Char → Prop
  | nil : Spelled [] []
  | plain (hc : IsPlain c) (h : Spelled w m) : Spelled (c :: w) (c :: m)
  | letter (he : (e, d) ∈ escapes) (h : Spelled w m) : Spelled ('\\' :: e :: w) (d :: m)
  | unit (hu : CodeUnit h₁ h₂ h₃ h₄ u) (hleading : ¬ Leading u) (htrailing : ¬ Trailing u)
      (h : Spelled w m) :
      Spelled ('\\' :: 'u' :: h₁ :: h₂ :: h₃ :: h₄ :: w) (Char.ofNat u :: m)
  | pair (hu : CodeUnit h₁ h₂ h₃ h₄ u) (hleading : Leading u) (hv : CodeUnit k₁ k₂ k₃ k₄ v)
      (htrailing : Trailing v) (h : Spelled w m) :
      Spelled ('\\' :: 'u' :: h₁ :: h₂ :: h₃ :: h₄ :: '\\' :: 'u' :: k₁ :: k₂ :: k₃ :: k₄ :: w)
        (Char.ofNat ((u - 0xD800) * 0x400 + (v - 0xDC00) + 0x10000) :: m)

inductive QuotedText : List Char → String → Prop
  | mk (h : Spelled w m) : QuotedText ('"' :: (w ++ ['"'])) (String.ofList m)

def Digits (ds : List Char) : Prop := ds ≠ [] ∧ ∀ d ∈ ds, isDigit d = true

/-- Digits without a zero in front of others. -/
def WholeDigits (ds : List Char) : Prop := Digits ds ∧ (ds.head? = some '0' → ds.length = 1)

inductive FractionText : List Char → Option (List Char) → Prop
  | none : FractionText [] none
  | some (hds : Digits ds) : FractionText ('.' :: ds) (some ds)

inductive ExponentSign : List Char → Bool → Prop
  | none : ExponentSign [] false
  | plus : ExponentSign ['+'] false
  | minus : ExponentSign ['-'] true

inductive ExponentText : List Char → Option (Bool × List Char) → Prop
  | none : ExponentText [] none
  | some (hmark : mark = 'e' ∨ mark = 'E') (hsign : ExponentSign sign below) (hds : Digits ds) :
      ExponentText (mark :: (sign ++ ds)) (some (below, ds))

def signText (negative : Bool) : List Char := if negative then ['-'] else []

inductive LiteralText : List Char → Literal → Prop
  | mk (hwhole : WholeDigits whole) (hfraction : FractionText f fraction)
      (hexponent : ExponentText e exponent) :
      LiteralText (signText negative ++ (whole ++ (f ++ e))) ⟨negative, whole, fraction, exponent⟩

/-- Values that hold no others. A number out of range has a literal, but no value. -/
inductive ScalarText : List Char → Json → Prop
  | null : ScalarText ['n', 'u', 'l', 'l'] .null
  | boolTrue : ScalarText ['t', 'r', 'u', 'e'] (.bool true)
  | boolFalse : ScalarText ['f', 'a', 'l', 's', 'e'] (.bool false)
  | num (h : LiteralText w l) (hn : l.value = .ok n) : ScalarText w (.num n)
  | str (h : QuotedText w s) : ScalarText w (.str s)

inductive ArrayText (item : List Char → Json → Prop) : List Char → Json → Prop
  | nil (h : Blank w) : ArrayText item ('[' :: (w ++ [']'])) (.arr [])
  | items (h : Separated (Padded item) w js) : ArrayText item ('[' :: (w ++ [']'])) (.arr js)

inductive MemberText (item : List Char → Json → Prop) : List Char → String × Json → Prop
  | mk (hname : Padded QuotedText k name) (hitem : Padded item w j) :
      MemberText item (k ++ ':' :: w) (name, j)

inductive ObjectText (item : List Char → Json → Prop) : List Char → Json → Prop
  | nil (h : Blank w) : ObjectText item ('{' :: (w ++ ['}'])) (.obj [])
  | members (h : Separated (MemberText item) w pairs) (hms : Members.Latest pairs ms) :
      ObjectText item ('{' :: (w ++ ['}'])) (.obj ms)

def ValueText : (levels : Nat) → List Char → Json → Prop
  | 0, w, j => ScalarText w j
  | levels + 1, w, j =>
    ScalarText w j ∨ ArrayText (ValueText levels) w j ∨ ObjectText (ValueText levels) w j

def Written (levels : Nat) (text : String) (j : Json) : Prop :=
  Padded (ValueText levels) text.toList j

theorem ok_bind (a : α) (f : α → Except ε β) : (Except.ok a >>= f) = f a := rfl

theorem bind_eq_ok_iff {x : Except ε α} {f : α → Except ε β} {b : β} :
    (x >>= f) = .ok b ↔ ∃ a, x = .ok a ∧ f a = .ok b := by
  cases x with
  | error e => simp [bind, Except.bind]
  | ok a => simp [bind, Except.bind]

section Blanks

variable {before w : List Char} {c : Char} {item : List Char → Json → Prop}
  {one : List Char → α → Prop} {a : α} {as : List α} {member : String × Json}

theorem blank_nil : Blank [] := fun _ h ↦ absurd h List.not_mem_nil

theorem Blank.append (hbefore : Blank before) (hw : Blank w) : Blank (before ++ w) := by
  intro c hc
  rcases List.mem_append.1 hc with hc | hc
  · exact hbefore c hc
  · exact hw c hc

theorem skipSpace_append (hbefore : Blank before) (cs : List Char) :
    skipSpace (before ++ cs) = skipSpace cs :=
  List.dropWhile_append_of_pos hbefore

theorem skipSpace_cons (hc : isSpace c = false) (cs : List Char) :
    skipSpace (c :: cs) = c :: cs := by
  simp [skipSpace, hc]

theorem skipSpace_of_blank (hw : Blank w) : skipSpace w = [] := by
  rw [← List.append_nil w, skipSpace_append hw]
  rfl

theorem exists_blank_append_skipSpace (cs : List Char) :
    ∃ before, Blank before ∧ cs = before ++ skipSpace cs :=
  ⟨cs.takeWhile isSpace, fun _ hc ↦ List.mem_takeWhile_imp hc,
    List.takeWhile_append_dropWhile.symm⟩

theorem skipSpace_skipSpace (cs : List Char) : skipSpace (skipSpace cs) = skipSpace cs := by
  obtain ⟨before, hbefore, hcs⟩ := exists_blank_append_skipSpace cs
  have hskip := skipSpace_append hbefore (skipSpace cs)
  rw [← hcs] at hskip
  exact hskip.symm

/-- Blanks are not skipped past a character that is no blank. -/
theorem length_le_length_skipSpace (hc : isSpace c = false) (w cs : List Char) :
    cs.length + 1 ≤ (skipSpace (w ++ c :: cs)).length := by
  induction w with
  | nil => rw [List.nil_append, skipSpace_cons hc, List.length_cons]
  | cons d w ih =>
      cases hd : isSpace d with
      | true =>
          have hskip : skipSpace (d :: (w ++ c :: cs)) = skipSpace (w ++ c :: cs) := by
            simp [skipSpace, hd]
          rwa [List.cons_append, hskip]
      | false =>
          rw [List.cons_append, skipSpace_cons hd]
          simp only [List.length_cons, List.length_append]
          omega

theorem Padded.exists_inside (h : Padded one w a) : ∃ v, one v a := by
  obtain ⟨-, hone, -⟩ := h
  exact ⟨_, hone⟩

theorem Padded.blank_append (hbefore : Blank before) (h : Padded one w a) :
    Padded one (before ++ w) a := by
  obtain ⟨hw, hone, hafter⟩ := h
  rw [← List.append_assoc]
  exact .mk (hbefore.append hw) hone hafter

theorem MemberText.blank_append (hbefore : Blank before) (h : MemberText item w member) :
    MemberText item (before ++ w) member := by
  obtain ⟨hname, hitem⟩ := h
  rw [← List.append_assoc]
  exact .mk (hname.blank_append hbefore) hitem

theorem Separated.blank_append
    (hone : ∀ {before w a}, Blank before → one w a → one (before ++ w) a)
    (hbefore : Blank before) (h : Separated one w as) : Separated one (before ++ w) as := by
  cases h with
  | single h => exact .single (hone hbefore h)
  | cons h hs =>
      rw [← List.append_assoc]
      exact .cons (hone hbefore h) hs

theorem Separated.length_le (h : Separated one w as) : as.length ≤ w.length + 1 := by
  induction h with
  | single _ => simp
  | cons _ _ ih =>
      simp only [List.length_cons, List.length_append]
      omega

/-- The reader's bound on the number of values, which is the length of what is left. -/
theorem Separated.length_le_skipSpace (hc : isSpace c = false) (h : Separated one w as)
    (rest : List Char) : as.length ≤ (skipSpace (w ++ c :: rest)).length := by
  cases h with
  | single _ =>
      have hlength := length_le_length_skipSpace hc w rest
      simp only [List.length_singleton]
      omega
  | @cons w _ ws _ _ hs =>
      have hlength := length_le_length_skipSpace (c := ',') (by decide) w (ws ++ c :: rest)
      have hcount := hs.length_le
      simp only [List.length_cons, List.length_append] at hlength ⊢
      rw [List.append_assoc, List.cons_append]
      omega

end Blanks

end EventFeed.Json
