import EventFeed.Proofs.Time.Spelling

/-!
# The order of texts

Texts of instants are compared character by character. As long as both are written as instants write
themselves, their order is that of the instants. In another spelling a time has a text that also
comes after those of some instants that are not before it: it `Overlooks` them. Marked with a `Z`,
which comes after all digits, it overlooks the instants that do not differ from it in the digits
that it shows. Marked with `+00:00` it overlooks its own instant, if it shows more digits of it than
the instant does itself. The main result is `Spelling.text_lt_text_iff`.
-/

namespace EventFeed.Time

section Digits

variable {d e : Fin 10} {ds es : List (Fin 10)}

theorem digit_lt_digit_iff : digit d < digit e ↔ d < e := by
  revert d e
  decide

theorem digit_inj : digit d = digit e ↔ d = e := by
  revert d e
  decide

theorem plus_lt_digit (d : Fin 10) : '+' < digit d := by
  revert d
  decide

theorem digit_lt_zulu (d : Fin 10) : digit d < 'Z' := by
  revert d
  decide

theorem cons_lt_cons_of_lt {a b : Char} (h : a < b) (x y : List Char) : a :: x < b :: y :=
  List.cons_lt_cons_iff.2 (Or.inl h)

theorem not_cons_lt_cons_of_gt {a b : Char} (h : b < a) (x y : List Char) : ¬ a :: x < b :: y := by
  rw [List.cons_lt_cons_iff]
  rintro (hlt | ⟨rfl, -⟩)
  · exact h.not_gt hlt
  · exact h.false

theorem cons_digit_lt_iff {x y : List Char} :
    digit e :: x < digit d :: y ↔ e < d ∨ e = d ∧ x < y := by
  rw [List.cons_lt_cons_iff, digit_lt_digit_iff, digit_inj]

/-- A plus sign comes before all digits, so of two texts that show the same the longer one comes
last. -/
theorem digits_lt_offset_iff :
    es.map digit ++ Zone.offset.mark < ds.map digit ++ Zone.offset.mark ↔
      part es < part ds ∨ part es = part ds ∧ es.length < ds.length := by
  induction ds generalizing es with
  | nil =>
      refine iff_of_false ?_ ?_
      · cases es with
        | nil => exact lt_irrefl Zone.offset.mark
        | cons e es => exact not_cons_lt_cons_of_gt (plus_lt_digit e) _ _
      · rintro (hless | ⟨-, hshorter⟩)
        · exact hless.not_ge (part_nonneg es)
        · exact Nat.not_lt_zero _ hshorter
  | cons d ds ih =>
      cases es with
      | nil =>
          have hpart := (part_nonneg (d :: ds)).lt_or_eq
          refine iff_of_true ?_ ?_
          · exact cons_lt_cons_of_lt (plus_lt_digit d) _ _
          · exact hpart.imp_right fun h ↦ ⟨h, Nat.succ_pos _⟩
      | cons e es =>
          have hlt : part (e :: es) < part (d :: ds) ↔ e < d ∨ e = d ∧ part es < part ds :=
            tenth_lt_tenth_iff (part_nonneg es) (part_lt_one es) (part_nonneg ds)
              (part_lt_one ds).le
          have heq : part (e :: es) = part (d :: ds) ↔ e = d ∧ part es = part ds :=
            tenth_eq_tenth_iff (part_nonneg es) (part_lt_one es) (part_nonneg ds)
              (part_lt_one ds)
          simp only [List.map_cons, List.cons_append, cons_digit_lt_iff, ih, hlt, heq,
            List.length_cons, Nat.add_lt_add_iff_right, and_or_left, or_assoc, and_assoc]

/-- The letter comes after all digits, so it counts as one more unit of the last one. -/
theorem digits_lt_zulu_iff :
    es.map digit ++ Zone.offset.mark < ds.map digit ++ Zone.zulu.mark ↔
      part es < part ds + 1 / 10 ^ ds.length := by
  induction ds generalizing es with
  | nil =>
      refine iff_of_true ?_ ?_
      · cases es with
        | nil => exact cons_lt_cons_of_lt (by decide) _ _
        | cons e es => exact cons_lt_cons_of_lt (digit_lt_zulu e) _ _
      · simpa [part] using part_lt_one es
  | cons d ds ih =>
      have hunit : part (d :: ds) + 1 / 10 ^ (d :: ds).length =
          (d + (part ds + 1 / 10 ^ ds.length)) / 10 := by
        rw [part, List.length_cons, pow_succ]
        field_simp
        ring
      have hrest : 0 < part ds + 1 / 10 ^ ds.length :=
        add_pos_of_nonneg_of_pos (part_nonneg ds) (by positivity)
      rw [hunit]
      cases es with
      | nil =>
          refine iff_of_true ?_ ?_
          · exact cons_lt_cons_of_lt (plus_lt_digit d) _ _
          · rw [part]
            positivity
      | cons e es =>
          rw [part, tenth_lt_tenth_iff (part_nonneg es) (part_lt_one es) hrest.le
            (part_add_unit_le_one ds), ← ih]
          exact cons_digit_lt_iff

/-- The mark of a zone comes before the point exactly if it comes before all digits, so the point
makes no difference. -/
theorem point_lt_iff (zone : Zone) :
    point es ++ Zone.offset.mark < point ds ++ zone.mark ↔
      es.map digit ++ Zone.offset.mark < ds.map digit ++ zone.mark := by
  cases es with
  | nil =>
      cases ds with
      | nil => rfl
      | cons d ds =>
          refine iff_of_true ?_ ?_
          · exact cons_lt_cons_of_lt (by decide) _ _
          · exact cons_lt_cons_of_lt (plus_lt_digit d) _ _
  | cons e es =>
      cases ds with
      | nil =>
          cases zone with
          | zulu =>
              refine iff_of_true ?_ ?_
              · exact cons_lt_cons_of_lt (by decide) _ _
              · exact cons_lt_cons_of_lt (digit_lt_zulu e) _ _
          | offset =>
              refine iff_of_false ?_ ?_
              · exact not_cons_lt_cons_of_gt (by decide) _ _
              · exact not_cons_lt_cons_of_gt (plus_lt_digit e) _ _
      | cons d ds => exact List.cons_lt_cons_iff.trans (by simp)

theorem padded_append_lt_iff {k m n : ℕ} {x y : List Char} (hm : m < 10 ^ k) (hn : n < 10 ^ k) :
    Instant.padded k m ++ x < Instant.padded k n ++ y ↔ m < n ∨ m = n ∧ x < y := by
  induction k generalizing m n x y with
  | zero =>
      obtain rfl : m = 0 := by simpa using hm
      obtain rfl : n = 0 := by simpa using hn
      simp [Instant.padded]
  | succ k ih =>
      rw [pow_succ] at hm hn
      have hlast : ∀ n, Nat.digitChar (n % 10) = digit ⟨n % 10, Nat.mod_lt n (by decide)⟩ :=
        fun _ ↦ rfl
      rw [Instant.padded, Instant.padded, List.append_assoc, List.append_assoc,
        ih (by omega) (by omega), List.singleton_append, List.singleton_append, hlast, hlast,
        cons_digit_lt_iff, Fin.mk_lt_mk, Fin.mk.injEq]
      have hlt : m < n ↔ m / 10 < n / 10 ∨ m / 10 = n / 10 ∧ m % 10 < n % 10 := by omega
      have heq : m = n ↔ m / 10 = n / 10 ∧ m % 10 = n % 10 := by omega
      rw [hlt, heq, and_or_left, or_assoc, and_assoc]

end Digits

namespace Instant

variable {s t : Instant}

theorem clock_append_lt_iff (hs : (s.nanos : ℕ) = 0) (ht : (t.nanos : ℕ) = 0) (x y : List Char) :
    s.clock ++ x < t.clock ++ y ↔ s.Before t ∨ s = t ∧ x < y := by
  have hfield {b k : ℕ} (hb : b ≤ 10 ^ k) (m n : Fin b) (x y : List Char) :
      padded k m ++ x < padded k n ++ y ↔ (m : ℕ) < n ∨ (m : ℕ) = n ∧ x < y :=
    padded_append_lt_iff (m.isLt.trans_le hb) (n.isLt.trans_le hb)
  have hsame (c : Char) (x y : List Char) : c :: x < c :: y ↔ x < y := by
    simp
  rw [← fields_inj, Before]
  -- Both sides come out as one case for each field that may be the first to differ.
  simp only [clock, fraction, fields, hs, ht, if_true, List.append_nil, List.append_assoc,
    List.cons_append, hsame, hfield (b := 10000) (k := 4) (by decide),
    hfield (b := 13) (k := 2) (by decide), hfield (b := 32) (k := 2) (by decide),
    hfield (b := 24) (k := 2) (by decide), hfield (b := 60) (k := 2) (by decide),
    hfield (b := 61) (k := 2) (by decide), List.cons_lt_cons_iff, List.cons.injEq,
    List.not_lt_nil, Nat.lt_irrefl, and_or_left, or_assoc, and_assoc, and_false, or_false, and_true]

theorem toLex_lt_toLex_iff {a b : ℚ} :
    toLex (s.fields, a) < toLex (t.fields, b) ↔ s.Before t ∨ s = t ∧ a < b := by
  rw [Prod.Lex.toLex_lt_toLex, fields_inj]
  exact Iff.rfl

end Instant

namespace Spelling

/-- Whether the instant is not before what is spelled, although its text comes first. -/
def Overlooks (w : Spelling) (t : Instant) : Prop :=
  w.zone = .zulu ∧ w.moment ≤ t.moment ∧ t.moment < w.next ∨
    w.zone = .offset ∧ t.moment = w.moment ∧ t.places < w.digits.length

instance (w : Spelling) (t : Instant) : Decidable (w.Overlooks t) :=
  inferInstanceAs (Decidable (_ ∨ _))

variable {s t : Instant} {w : Spelling}

theorem text_lt_text_iff_point :
    t.text < w.text ↔ t.floor.Before w.start ∨ t.floor = w.start ∧
      point t.digits ++ Zone.offset.mark < point w.digits ++ w.zone.mark := by
  rw [← text_ofInstant, text, text, String.lt_iff_toList_lt, String.toList_ofList,
    String.toList_ofList, Instant.clock_append_lt_iff (ofInstant t).whole w.whole]
  rfl

theorem text_lt_text_of_zulu (h : w.zone = .zulu) : t.text < w.text ↔ t.moment < w.next := by
  rw [text_lt_text_iff_point, h, point_lt_iff, digits_lt_zulu_iff, t.part_digits, next,
    Instant.moment, Instant.toLex_lt_toLex_iff]

theorem text_lt_text_of_offset (h : w.zone = .offset) :
    t.text < w.text ↔
      t.moment < w.moment ∨ t.moment = w.moment ∧ t.places < w.digits.length := by
  rw [text_lt_text_iff_point, h, point_lt_iff, digits_lt_offset_iff, t.part_digits,
    t.length_digits, moment, Instant.moment, Instant.toLex_lt_toLex_iff, toLex_inj, Prod.mk.injEq,
    Instant.fields_inj, and_or_left, or_assoc, and_assoc]

theorem moment_lt_next (w : Spelling) : w.moment < w.next := by
  have hunit : (0 : ℚ) < 1 / 10 ^ w.digits.length := by positivity
  exact Prod.Lex.toLex_lt_toLex.2 (Or.inr ⟨rfl, lt_add_of_pos_right _ hunit⟩)

/-- The text of an instant comes before another spelling exactly if the instant does or is
overlooked. -/
theorem text_lt_text_iff : t.text < w.text ↔ t.moment < w.moment ∨ w.Overlooks t := by
  rw [Overlooks]
  cases h : w.zone with
  | zulu =>
      rw [text_lt_text_of_zulu h]
      constructor
      · intro hlt
        rcases lt_or_ge t.moment w.moment with hbefore | hafter
        · exact Or.inl hbefore
        · exact Or.inr (Or.inl ⟨rfl, hafter, hlt⟩)
      · rintro (hbefore | ⟨-, -, hlt⟩ | ⟨hzone, -⟩)
        · exact hbefore.trans w.moment_lt_next
        · exact hlt
        · cases hzone
  | offset =>
      rw [text_lt_text_of_offset h]
      simp

/-- No instant is overlooked if the spelling is that of an instant. -/
theorem not_overlooks_ofInstant (s t : Instant) : ¬ (ofInstant s).Overlooks t := by
  rintro (⟨hzone, -⟩ | ⟨-, hmoment, hplaces⟩)
  · cases hzone
  · rw [moment_ofInstant, Instant.moment_inj] at hmoment
    rw [hmoment] at hplaces
    exact hplaces.ne s.length_digits.symm

end Spelling

theorem Instant.text_lt_text_iff {s t : Instant} : s.text < t.text ↔ s.Before t := by
  rw [← Spelling.text_ofInstant t, Spelling.text_lt_text_iff, Spelling.moment_ofInstant, before_iff,
    or_iff_left (Spelling.not_overlooks_ofInstant t s)]

end EventFeed.Time
