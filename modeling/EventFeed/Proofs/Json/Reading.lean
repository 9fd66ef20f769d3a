import EventFeed.Proofs.Json.Literals
import EventFeed.Proofs.Json.Spelling

/-!
# The reader takes the grammar

`Reads item one` says that a reader of single values takes the texts of `one`. The readers of
arrays and objects keep that, so that `reads_readValue` is an induction on the levels, and
`read_eq_ok_iff` follows: `read` gives a value exactly for the texts in which it is written.
-/

namespace EventFeed.Json

/-- A reader that skips blanks and takes a text of `one`. -/
structure Reads (item : List Char → Except ReadError (Json × List Char))
    (one : List Char → Json → Prop) : Prop where
  skip : ∀ cs, item (skipSpace cs) = item cs
  sound : item cs = .ok (j, rest) → ∃ w, one w j ∧ skipSpace cs = w ++ rest
  complete : one w j → EndsNumber rest → item (w ++ rest) = .ok (j, rest)
  head : one w j → ∃ c cs, w = c :: cs ∧ isSpace c = false ∧ c ≠ ']'

section Ends

variable {after rest : List Char} {c : Char}

theorem endsNumber_nil : EndsNumber [] := nofun

theorem endsNumber_cons (hc : c ∈ [',', ']', '}', ' ', '\t', '\n', '\r']) (cs : List Char) :
    EndsNumber (c :: cs) := by
  rintro _ ⟨⟩
  simp only [List.mem_cons, List.not_mem_nil, or_false] at hc
  rcases hc with rfl | rfl | rfl | rfl | rfl | rfl | rfl <;> decide

theorem Blank.endsNumber_append (hafter : Blank after) (hrest : EndsNumber rest) :
    EndsNumber (after ++ rest) := by
  cases after with
  | nil => exact hrest
  | cons c after =>
      have hc := hafter c List.mem_cons_self
      simp only [isSpace, Bool.or_eq_true, beq_iff_eq] at hc
      refine endsNumber_cons ?_ _
      rcases hc with ((rfl | rfl) | rfl) | rfl <;> simp

end Ends

section Sequences

variable {item : List Char → Except ReadError (Json × List Char)} {one : List Char → Json → Prop}
  {c : Char} {cs rest w : List Char} {j : Json} {js : List Json} {limit : Nat}
  {m : String × Json} {ms : List (String × Json)}

/-- A value in blanks: the blanks after it are left. -/
theorem Reads.padded (h : Reads item one) (hw : Padded one w j) (hrest : EndsNumber rest) :
    ∃ after, Blank after ∧ item (w ++ rest) = .ok (j, after ++ rest) := by
  obtain ⟨hbefore, hone, hafter⟩ := hw
  refine ⟨_, hafter, ?_⟩
  rw [← h.skip, List.append_assoc, skipSpace_append hbefore, h.skip, List.append_assoc]
  exact h.complete hone (hafter.endsNumber_append hrest)

theorem Reads.exists_padded (h : Reads item one) (hread : item cs = .ok (j, rest)) :
    ∃ w, Padded one w j ∧ cs = w ++ skipSpace rest := by
  obtain ⟨v, hv, hcs⟩ := h.sound hread
  obtain ⟨before, hbefore, hbeforeEq⟩ := exists_blank_append_skipSpace cs
  obtain ⟨after, hafter, hafterEq⟩ := exists_blank_append_skipSpace rest
  refine ⟨_, .mk hbefore hv hafter, ?_⟩
  rw [List.append_assoc, List.append_assoc, ← hafterEq, ← hcs, ← hbeforeEq]

theorem Reads.head_skipSpace (h : Reads item one) (hw : Separated (Padded one) w js)
    (rest : List Char) :
    (skipSpace (w ++ rest)).head? ≠ some ']' := by
  have hpadded : ∀ {w j rest}, Padded one w j → (skipSpace (w ++ rest)).head? ≠ some ']' := by
    rintro w j rest ⟨hbefore, hone, -⟩
    obtain ⟨c, cs, rfl, hspace, hc⟩ := h.head hone
    rw [List.append_assoc, skipSpace_append hbefore, List.cons_append, List.cons_append,
      skipSpace_cons hspace]
    simpa using hc
  cases hw with
  | single hw => exact hpadded hw
  | cons hw _ =>
      rw [List.append_assoc]
      exact hpadded hw

theorem Reads.items (h : Reads item one) (hw : Separated (Padded one) w js)
    (hlimit : js.length ≤ limit) (rest : List Char) :
    readItems item limit (w ++ ']' :: rest) = .ok (js, rest) := by
  induction hw generalizing limit with
  | single hw =>
      obtain ⟨limit, rfl⟩ := Nat.exists_eq_add_one.2 (Nat.zero_lt_of_lt hlimit)
      obtain ⟨after, hafter, hread⟩ := h.padded hw (endsNumber_cons (c := ']') (by simp) rest)
      simp only [readItems, hread, ok_bind, skipSpace_append hafter,
        skipSpace_cons (c := ']') (by decide)]
      rfl
  | @cons w j ws js hw hws ih =>
      obtain ⟨limit, rfl⟩ := Nat.exists_eq_add_one.2 (Nat.zero_lt_of_lt hlimit)
      have hmore := ih (Nat.le_of_succ_le_succ hlimit)
      have hhead := h.head_skipSpace hws (']' :: rest)
      obtain ⟨after, hafter, hread⟩ :=
        h.padded hw (endsNumber_cons (c := ',') (by simp) (ws ++ ']' :: rest))
      rw [List.append_assoc, List.cons_append]
      simp only [readItems, hread, ok_bind, skipSpace_append hafter,
        skipSpace_cons (c := ',') (by decide), hhead, hmore]
      rfl

theorem Reads.exists_items (h : Reads item one)
    (hrun : readItems item limit cs = .ok (js, rest)) :
    ∃ w, Separated (Padded one) w js ∧ cs = w ++ ']' :: rest := by
  induction limit generalizing cs js with
  | zero => cases hrun
  | succ limit ih =>
      obtain ⟨⟨j, cs₁⟩, hitem, hread⟩ := bind_eq_ok_iff.1 hrun
      obtain ⟨w, hw, rfl⟩ := h.exists_padded hitem
      dsimp only at hread
      split at hread
      · cases hread
      · next c cs₂ hskip =>
        rw [hskip]
        split at hread
        · next hbracket =>
          cases hread
          exact ⟨w, .single hw, by rw [hbracket]⟩
        · split at hread
          · cases hread
          · next hcomma =>
            split at hread
            · cases hread
            · obtain ⟨⟨more, cs₃⟩, hmore, hread⟩ := bind_eq_ok_iff.1 hread
              cases hread
              obtain ⟨ws, hws, rfl⟩ := ih hmore
              refine ⟨_, .cons hw hws, ?_⟩
              rw [not_not.1 hcomma, List.append_assoc, List.cons_append]

/-- A member in blanks: those after it are left, those before it are not read. -/
theorem Reads.member (h : Reads item one) (hw : MemberText one w m) (hrest : EndsNumber rest) :
    ∃ cs after, skipSpace (w ++ rest) = '"' :: cs ∧ Blank after ∧
      readMember item ('"' :: cs) = .ok (m, after ++ rest) := by
  cases hw with
  | @mk _ _ v _ hname hitem =>
      cases hname with
      | @mk _ _ _ between hbefore hquoted hbetween =>
          cases hquoted with
          | @mk w _ hspelled =>
              obtain ⟨after, hafter, hread⟩ := h.padded hitem hrest
              refine ⟨w ++ '"' :: (between ++ ':' :: (v ++ rest)), after, ?_, hafter, ?_⟩
              · simp only [List.append_assoc, List.cons_append, List.nil_append,
                  skipSpace_append hbefore]
                exact skipSpace_cons (by decide) _
              · simp only [readMember, List.tail_cons, readText_spelled hspelled, ok_bind,
                  skipSpace_append hbetween, skipSpace_cons (c := ':') (by decide), ne_eq,
                  not_true_eq_false, ↓reduceIte, hread]
                rfl

theorem Reads.exists_member (h : Reads item one)
    (hread : readMember item ('"' :: cs) = .ok (m, rest)) :
    ∃ w, MemberText one w m ∧ '"' :: cs = w ++ skipSpace rest := by
  obtain ⟨⟨name, cs₁⟩, hname, hread⟩ := bind_eq_ok_iff.1 hread
  obtain ⟨w, hw, hcs⟩ := readText_eq_ok_iff.1 hname
  obtain ⟨between, hbetween, hbetweenEq⟩ := exists_blank_append_skipSpace cs₁
  dsimp only at hread
  split at hread
  · cases hread
  · next c cs₂ hskip =>
    split at hread
    · cases hread
    · next hcolon =>
      obtain ⟨⟨j, cs₃⟩, hitem, hread⟩ := bind_eq_ok_iff.1 hread
      cases hread
      obtain ⟨v, hv, rfl⟩ := h.exists_padded hitem
      refine ⟨_, .mk (.mk blank_nil (.mk hw) hbetween) hv, ?_⟩
      rw [List.tail_cons] at hcs
      rw [hcs, hbetweenEq, hskip, not_not.1 hcolon]
      simp only [List.append_assoc, List.cons_append, List.nil_append]

theorem Reads.members (h : Reads item one) (hw : Separated (MemberText one) w ms)
    (hlimit : ms.length ≤ limit) (rest : List Char) :
    ∃ cs, skipSpace (w ++ '}' :: rest) = '"' :: cs ∧
      readMembers item limit ('"' :: cs) = .ok (ms, rest) := by
  induction hw generalizing limit with
  | single hw =>
      obtain ⟨limit, rfl⟩ := Nat.exists_eq_add_one.2 (Nat.zero_lt_of_lt hlimit)
      obtain ⟨cs, after, hcs, hafter, hread⟩ :=
        h.member hw (endsNumber_cons (c := '}') (by simp) rest)
      refine ⟨cs, hcs, ?_⟩
      simp only [readMembers, hread, ok_bind, skipSpace_append hafter,
        skipSpace_cons (c := '}') (by decide)]
      rfl
  | @cons w m ws ms hw hws ih =>
      obtain ⟨limit, rfl⟩ := Nat.exists_eq_add_one.2 (Nat.zero_lt_of_lt hlimit)
      obtain ⟨more, hmoreEq, hmore⟩ := ih (Nat.le_of_succ_le_succ hlimit)
      obtain ⟨cs, after, hcs, hafter, hread⟩ :=
        h.member hw (endsNumber_cons (c := ',') (by simp) (ws ++ '}' :: rest))
      rw [List.append_assoc, List.cons_append]
      refine ⟨cs, hcs, ?_⟩
      simp only [readMembers, hread, ok_bind, skipSpace_append hafter,
        skipSpace_cons (c := ',') (by decide), hmoreEq, hmore]
      rfl

theorem Reads.exists_members (h : Reads item one)
    (hrun : readMembers item limit ('"' :: cs) = .ok (ms, rest)) :
    ∃ w, Separated (MemberText one) w ms ∧ '"' :: cs = w ++ '}' :: rest := by
  induction limit generalizing cs ms with
  | zero => cases hrun
  | succ limit ih =>
      obtain ⟨⟨m, cs₁⟩, hmember, hread⟩ := bind_eq_ok_iff.1 hrun
      obtain ⟨w, hw, hcs⟩ := h.exists_member hmember
      rw [hcs]
      dsimp only at hread
      split at hread
      · cases hread
      · next c cs₂ hskip =>
        rw [hskip]
        split at hread
        · next hbrace =>
          cases hread
          exact ⟨w, .single hw, by rw [hbrace]⟩
        · split at hread
          · cases hread
          · next hcomma =>
            obtain ⟨between, hbetween, hbetweenEq⟩ := exists_blank_append_skipSpace cs₂
            split at hread
            · cases hread
            · next c' cs₃ hnext =>
              split at hread
              · cases hread
              · split at hread
                · cases hread
                · next hquote =>
                  obtain ⟨⟨more, cs₄⟩, hmore, hread⟩ := bind_eq_ok_iff.1 hread
                  cases hread
                  rw [not_not.1 hquote] at hmore hnext
                  obtain ⟨ws, hws, hwsEq⟩ := ih hmore
                  -- the blanks after the comma stand before the next name
                  have hprepended := hws.blank_append MemberText.blank_append hbetween
                  refine ⟨_, .cons hw hprepended, ?_⟩
                  rw [not_not.1 hcomma, hbetweenEq, hnext, hwsEq]
                  simp only [List.append_assoc, List.cons_append]

theorem Reads.items_skipSpace (h : Reads item one) (limit : Nat) (cs : List Char) :
    readItems item limit (skipSpace cs) = readItems item limit cs := by
  cases limit with
  | zero => rfl
  | succ limit => simp only [readItems, h.skip]

theorem Reads.array (h : Reads item one) (hw : ArrayText one w j) (rest : List Char) :
    ∃ cs, w = '[' :: cs ∧ readArray item (cs ++ rest) = .ok (j, rest) := by
  cases hw with
  | @nil w hblank =>
      refine ⟨w ++ [']'], rfl, ?_⟩
      simp only [readArray, List.append_assoc, List.cons_append, List.nil_append,
        skipSpace_append hblank, skipSpace_cons (c := ']') (by decide), ↓reduceIte]
  | @items w js hitems =>
      refine ⟨w ++ [']'], rfl, ?_⟩
      -- the text that is left bounds the number of items, so the limit is no limit
      have hcount := hitems.length_le_skipSpace (c := ']') (by decide) rest
      have hpresent := length_le_length_skipSpace (c := ']') (by decide) w rest
      have hhead := h.head_skipSpace hitems (']' :: rest)
      have hread := h.items hitems hcount rest
      rw [readArray, List.append_assoc, List.cons_append, List.nil_append]
      split
      · next hnil => simp [hnil] at hpresent
      · next c cs hskip =>
        rw [hskip] at hcount hhead hread
        have hc : c ≠ ']' := fun hc ↦ hhead (by rw [hc]; rfl)
        rw [if_neg hc, ← hskip, h.items_skipSpace, hskip, hread]
        rfl

theorem Reads.exists_array (h : Reads item one) (hread : readArray item cs = .ok (j, rest)) :
    ∃ w, ArrayText one w j ∧ '[' :: cs = w ++ rest := by
  obtain ⟨before, hbefore, hcs⟩ := exists_blank_append_skipSpace cs
  rw [readArray] at hread
  split at hread
  · cases hread
  · next c cs₁ hskip =>
    split at hread
    · next hc =>
      cases hread
      refine ⟨_, .nil hbefore, ?_⟩
      rw [hcs, hskip, hc]
      simp
    · obtain ⟨⟨js, cs₂⟩, hitems, hread⟩ := bind_eq_ok_iff.1 hread
      cases hread
      obtain ⟨w, hw, hwEq⟩ := h.exists_items hitems
      refine ⟨_, .items (hw.blank_append Padded.blank_append hbefore), ?_⟩
      rw [hcs, hskip, hwEq]
      simp

theorem Reads.object (h : Reads item one) (hw : ObjectText one w j) (rest : List Char) :
    ∃ cs, w = '{' :: cs ∧ readObject item (cs ++ rest) = .ok (j, rest) := by
  cases hw with
  | @nil w hblank =>
      refine ⟨w ++ ['}'], rfl, ?_⟩
      simp only [readObject, List.append_assoc, List.cons_append, List.nil_append,
        skipSpace_append hblank, skipSpace_cons (c := '}') (by decide), ↓reduceIte]
  | @members w pairs ms hpairs hms =>
      refine ⟨w ++ ['}'], rfl, ?_⟩
      have hcount := hpairs.length_le_skipSpace (c := '}') (by decide) rest
      obtain ⟨cs, hskip, hread⟩ := h.members hpairs hcount rest
      rw [hskip] at hread
      have hne : ('"' : Char) ≠ '}' := by decide
      simp only [readObject, List.append_assoc, List.cons_append, List.nil_append, hskip,
        if_neg hne, ne_eq, not_true_eq_false, ↓reduceIte, hread, ok_bind]
      rw [hms.eq (Members.latest_ofList pairs)]
      rfl

theorem Reads.exists_object (h : Reads item one) (hread : readObject item cs = .ok (j, rest)) :
    ∃ w, ObjectText one w j ∧ '{' :: cs = w ++ rest := by
  obtain ⟨before, hbefore, hcs⟩ := exists_blank_append_skipSpace cs
  rw [readObject] at hread
  split at hread
  · cases hread
  · next c cs₁ hskip =>
    split at hread
    · next hc =>
      cases hread
      refine ⟨_, .nil hbefore, ?_⟩
      rw [hcs, hskip, hc]
      simp
    · split at hread
      · cases hread
      · next hquote =>
        obtain ⟨⟨pairs, cs₂⟩, hmembers, hread⟩ := bind_eq_ok_iff.1 hread
        cases hread
        rw [not_not.1 hquote] at hmembers hskip
        obtain ⟨w, hw, hwEq⟩ := h.exists_members hmembers
        refine ⟨_, .members (hw.blank_append MemberText.blank_append hbefore)
          (Members.latest_ofList pairs), ?_⟩
        rw [hcs, hskip, hwEq]
        simp

end Sequences

section Values

variable {c d : Char} {cs rest w word : List Char} {j value : Json} {l : Literal} {levels : Nat}

theorem readIdent_eq_ok_iff :
    readIdent value word cs = .ok (j, rest) ↔ j = value ∧ cs = word ++ rest := by
  induction word generalizing cs with
  | nil => simp [readIdent, eq_comm]
  | cons d word ih =>
      cases cs with
      | nil => simp [readIdent]
      | cons c cs =>
          rw [readIdent]
          split
          · next hc => simp [hc, ih]
          · next hc => simp [hc]

theorem exists_scalarText_of_read (hread : readScalar c cs = .ok (j, rest)) :
    ∃ w, ScalarText w j ∧ c :: cs = w ++ rest := by
  rw [readScalar] at hread
  split at hread
  · next hquote =>
    obtain ⟨⟨text, cs₁⟩, htext, hread⟩ := bind_eq_ok_iff.1 hread
    cases hread
    obtain ⟨w, hw, rfl⟩ := readText_eq_ok_iff.1 htext
    exact ⟨_, .str (.mk hw), by simp [hquote]⟩
  split at hread
  · next hn =>
    obtain ⟨rfl, rfl⟩ := readIdent_eq_ok_iff.1 hread
    exact ⟨_, .null, by rw [hn]; rfl⟩
  split at hread
  · next ht =>
    obtain ⟨rfl, rfl⟩ := readIdent_eq_ok_iff.1 hread
    exact ⟨_, .boolTrue, by rw [ht]; rfl⟩
  split at hread
  · next hf =>
    obtain ⟨rfl, rfl⟩ := readIdent_eq_ok_iff.1 hread
    exact ⟨_, .boolFalse, by rw [hf]; rfl⟩
  split at hread
  · obtain ⟨⟨l, cs₁⟩, hliteral, hread⟩ := bind_eq_ok_iff.1 hread
    obtain ⟨n, hn, hread⟩ := bind_eq_ok_iff.1 hread
    cases hread
    obtain ⟨w, hw, hcs⟩ := exists_literalText_of_read hliteral
    exact ⟨w, .num hw hn, hcs⟩
  · cases hread

theorem LiteralText.head (h : LiteralText w l) :
    ∃ c cs, w = c :: cs ∧ (c = '-' ∨ isDigit c = true) := by
  cases h with
  | @mk whole f _ e _ negative hwhole _ _ =>
      cases negative with
      | true => exact ⟨'-', _, rfl, Or.inl rfl⟩
      | false =>
          obtain ⟨d, ds, rfl, hd⟩ := hwhole.1.exists_cons
          exact ⟨d, _, rfl, Or.inr hd⟩

/-- No number starts with a character that something else starts with. -/
theorem ne_of_numberHead (hc : c = '-' ∨ isDigit c = true)
    (hd : d ∈ ['"', 'n', 't', 'f', '[', '{', ']', ' ', '\t', '\n', '\r']) : c ≠ d := by
  have hother : (['"', 'n', 't', 'f', '[', '{', ']', ' ', '\t', '\n', '\r'].all
      fun d ↦ d ≠ '-' && !isDigit d) = true := by decide
  rintro rfl
  have hc' := List.all_eq_true.1 hother c hd
  rcases hc with hc | hc <;> simp [hc] at hc'

theorem isSpace_of_numberHead (hc : c = '-' ∨ isDigit c = true) : isSpace c = false := by
  have hne := fun d ↦ ne_of_numberHead (d := d) hc
  simp [isSpace, hne]

theorem ScalarText.read (h : ScalarText w j) (hrest : EndsNumber rest) :
    ∃ c cs, w = c :: cs ∧ isSpace c = false ∧ c ∉ ['[', '{', ']'] ∧
      readScalar c (cs ++ rest) = .ok (j, rest) := by
  cases h with
  | null => exact ⟨'n', _, rfl, by decide, by decide, readIdent_eq_ok_iff.2 ⟨rfl, rfl⟩⟩
  | boolTrue => exact ⟨'t', _, rfl, by decide, by decide, readIdent_eq_ok_iff.2 ⟨rfl, rfl⟩⟩
  | boolFalse => exact ⟨'f', _, rfl, by decide, by decide, readIdent_eq_ok_iff.2 ⟨rfl, rfl⟩⟩
  | str h =>
      obtain ⟨hspelled⟩ := h
      refine ⟨'"', _, rfl, by decide, by decide, ?_⟩
      rw [readScalar, if_pos rfl, List.append_assoc, List.cons_append, List.nil_append,
        readText_spelled hspelled]
      rfl
  | num h hn =>
      obtain ⟨c, cs, rfl, hc⟩ := h.head
      have hne := fun d ↦ ne_of_numberHead (d := d) hc
      have hread := h.read hrest
      refine ⟨c, cs, rfl, isSpace_of_numberHead hc, by simp [hne], ?_⟩
      rw [readScalar, if_neg (hne '"' (by simp)), if_neg (hne 'n' (by simp)),
        if_neg (hne 't' (by simp)), if_neg (hne 'f' (by simp)), if_pos (by simpa using hc),
        ← List.cons_append, hread, ok_bind]
      simp only [hn, ok_bind]
      rfl

theorem readValue_skipSpace (levels : Nat) (cs : List Char) :
    readValue levels (skipSpace cs) = readValue levels cs := by
  cases levels <;> simp only [readValue, skipSpace_skipSpace]

theorem ScalarText.readValue (h : ScalarText w j) (hrest : EndsNumber rest) (levels : Nat) :
    readValue levels (w ++ rest) = .ok (j, rest) := by
  obtain ⟨c, cs, rfl, hspace, hc, hread⟩ := h.read hrest
  have hopening : c ≠ '[' ∧ c ≠ '{' := by simp_all
  cases levels with
  | zero =>
      simp only [Json.readValue, List.cons_append, skipSpace_cons hspace, hopening, decide_false,
        Bool.or_self, Bool.false_eq_true, ↓reduceIte, hread]
  | succ levels =>
      simp only [Json.readValue, List.cons_append, skipSpace_cons hspace, hopening, ↓reduceIte,
        hread]

theorem ScalarText.head (h : ScalarText w j) :
    ∃ c cs, w = c :: cs ∧ isSpace c = false ∧ c ≠ ']' := by
  obtain ⟨c, cs, hw, hspace, hc, -⟩ := h.read endsNumber_nil
  exact ⟨c, cs, hw, hspace, by simp_all⟩

theorem reads_readValue_zero : Reads (readValue 0) (ValueText 0) where
  skip := readValue_skipSpace 0
  sound hread := by
    rw [readValue] at hread
    split at hread
    · cases hread
    · next c cs₁ hskip =>
      split at hread
      · cases hread
      · rw [hskip]
        exact exists_scalarText_of_read hread
  complete hw hrest := ScalarText.readValue hw hrest 0
  head hw := ScalarText.head hw

theorem Reads.succ (h : Reads (readValue levels) (ValueText levels)) :
    Reads (readValue (levels + 1)) (ValueText (levels + 1)) where
  skip := readValue_skipSpace (levels + 1)
  sound hread := by
    rw [readValue] at hread
    split at hread
    · cases hread
    · next c cs₁ hskip =>
      rw [hskip]
      split at hread
      · next hc =>
        obtain ⟨w, hw, hcs⟩ := h.exists_array hread
        exact ⟨w, Or.inr (Or.inl hw), hc ▸ hcs⟩
      split at hread
      · next hc =>
        obtain ⟨w, hw, hcs⟩ := h.exists_object hread
        exact ⟨w, Or.inr (Or.inr hw), hc ▸ hcs⟩
      · obtain ⟨w, hw, hcs⟩ := exists_scalarText_of_read hread
        exact ⟨w, Or.inl hw, hcs⟩
  complete {_ _ rest} hw hrest := by
    rcases hw with hw | hw | hw
    · exact hw.readValue hrest _
    · obtain ⟨cs, rfl, hread⟩ := h.array hw rest
      rw [readValue, List.cons_append, skipSpace_cons (by decide)]
      exact hread
    · obtain ⟨cs, rfl, hread⟩ := h.object hw rest
      rw [readValue, List.cons_append, skipSpace_cons (by decide)]
      exact hread
  head hw := by
    rcases hw with hw | hw | hw
    · exact hw.head
    · obtain ⟨cs, hw, -⟩ := h.array hw []
      exact ⟨_, cs, hw, by decide, by decide⟩
    · obtain ⟨cs, hw, -⟩ := h.object hw []
      exact ⟨_, cs, hw, by decide, by decide⟩

theorem reads_readValue (levels : Nat) : Reads (readValue levels) (ValueText levels) := by
  induction levels with
  | zero => exact reads_readValue_zero
  | succ levels ih => exact ih.succ

theorem readWithin_eq_ok_iff {text : String} :
    readWithin levels text = .ok j ↔ Written levels text j := by
  have hreads := reads_readValue levels
  constructor
  · intro h
    obtain ⟨⟨value, rest⟩, hread, h⟩ := bind_eq_ok_iff.1 h
    dsimp only at h
    split at h
    · next hrest =>
      cases h
      obtain ⟨w, hw, htext⟩ := hreads.exists_padded hread
      rw [List.isEmpty_iff.1 hrest, List.append_nil] at htext
      rwa [Written, htext]
    · cases h
  · intro h
    obtain ⟨after, hafter, hread⟩ := hreads.padded h endsNumber_nil
    rw [List.append_nil, List.append_nil] at hread
    simp only [readWithin, hread, ok_bind, skipSpace_of_blank hafter, List.isEmpty_nil, ↓reduceIte]
    rfl

end Values

theorem read_eq_ok_iff {text : String} {j : Json} : read text = .ok j ↔ Written 127 text j :=
  readWithin_eq_ok_iff

end EventFeed.Json
