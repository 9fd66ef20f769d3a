import EventFeed.Json.Printer
import EventFeed.Proofs.Json.Contents

/-!
# The printer writes the grammar

What is printed for a well formed value without floating point numbers is a text of the value, in
which as many levels stand inside one another as in the value. `written_print` says so, and
`written_print_record` allows the outermost members to stand in any order, which is how records are
printed.
-/

namespace EventFeed.Json

theorem Padded.of {one : List Char → α → Prop} {w : List Char} {a : α} (h : one w a) :
    Padded one w a := by
  have hpadded := Padded.mk blank_nil h blank_nil
  rwa [List.nil_append, List.append_nil] at hpadded

section Sequences

variable {one : List Char → Json → Prop} {js : List Json} {ms pairs pairs' : Members}

/-- A member that is printed stands for another of the same name. -/
def Stands (one : List Char → Json → Prop) (m m' : String × Json) : Prop :=
  m.1 = m'.1 ∧ one m.2.render m'.2

theorem forall₂_stands (h : ∀ m ∈ ms, one m.2.render m.2) : List.Forall₂ (Stands one) ms ms :=
  List.forall₂_same.2 fun m hm ↦ ⟨rfl, h m hm⟩

theorem separated_renderItems (h : ∀ j ∈ js, one j.render j) (hne : js ≠ []) :
    Separated (Padded one) (renderItems js) js := by
  induction js with
  | nil => contradiction
  | cons j js ih =>
      obtain ⟨hj, hjs⟩ := List.forall_mem_cons.1 h
      cases js with
      | nil => exact .single (.of hj)
      | cons j' js => exact .cons (.of hj) (ih hjs (List.cons_ne_nil j' js))

theorem separated_renderMembers (h : List.Forall₂ (Stands one) pairs pairs') (hne : pairs ≠ []) :
    Separated (MemberText one) (renderMembers pairs) pairs' := by
  induction h with
  | nil => contradiction
  | @cons m m' pairs pairs' hm hrest ih =>
      obtain ⟨hname, hitem⟩ := hm
      have hmember : MemberText one (quoted m.1.toList ++ ':' :: m.2.render) m' :=
        .mk (hname ▸ .of (quotedText_quoted m.1)) (.of hitem)
      cases pairs with
      | nil =>
          cases hrest
          exact .single hmember
      | cons next pairs =>
          have hcons := Separated.cons hmember (ih (List.cons_ne_nil next pairs))
          rwa [List.append_assoc] at hcons

theorem arrayText_render (h : ∀ j ∈ js, one j.render j) :
    ArrayText one (Json.arr js).render (.arr js) := by
  rw [render]
  cases js with
  | nil => exact .nil blank_nil
  | cons j js => exact .items (separated_renderItems h (List.cons_ne_nil j js))

theorem objectText_render (h : List.Forall₂ (Stands one) pairs pairs')
    (hms : Members.Latest pairs' ms) : ObjectText one (Json.obj pairs).render (.obj ms) := by
  rw [render]
  cases h with
  | nil =>
      obtain rfl := hms.eq (Members.Sorted.latest .nil)
      exact .nil blank_nil
  | cons hm hrest =>
      exact .members (separated_renderMembers (.cons hm hrest) (List.cons_ne_nil _ _)) hms

end Sequences

/-- Induction on a value: its items and the values of its members come before it. -/
theorem induction_on_contents {motive : Json → Prop} (null : motive .null)
    (bool : ∀ b, motive (.bool b)) (num : ∀ n, motive (.num n)) (str : ∀ s, motive (.str s))
    (arr : ∀ items, (∀ j ∈ items, motive j) → motive (.arr items))
    (obj : ∀ ms : List (String × Json), (∀ m ∈ ms, motive m.2) → motive (.obj ms)) (j : Json) :
    motive j :=
  @Json.rec motive (fun items ↦ ∀ j ∈ items, motive j) (fun ms ↦ ∀ m ∈ ms, motive m.2)
    (fun m ↦ motive m.2) null bool num str arr obj nofun
    (fun _ _ hj hjs ↦ List.forall_mem_cons.2 ⟨hj, hjs⟩) nofun
    (fun _ _ hm hms ↦ List.forall_mem_cons.2 ⟨hm, hms⟩) (fun _ _ hj ↦ hj) j

section Values

variable {j : Json} {levels : Nat} {ms : Members} {pairs : List (String × Json)}

theorem ScalarText.valueText {w : List Char} (h : ScalarText w j) (levels : Nat) :
    ValueText levels w j := by
  cases levels with
  | zero => exact h
  | succ levels => exact Or.inl h

theorem valueText_render (hj : WellFormed j) (hfloat : Floatless j) (hdepth : j.depth ≤ levels) :
    ValueText levels j.render j := by
  induction j using induction_on_contents generalizing levels with
  | null => exact ScalarText.null.valueText levels
  | bool b =>
      cases b with
      | true => exact ScalarText.boolTrue.valueText levels
      | false => exact ScalarText.boolFalse.valueText levels
  | str s => exact (ScalarText.str (quotedText_quoted s)).valueText levels
  | num n =>
      cases n with
      | float x => exact absurd .self (hfloat x)
      | int k =>
          obtain ⟨hlow, hhigh⟩ := hj.bounds .self
          obtain ⟨l, hl, hvalue⟩ := exists_literalText_intText hlow hhigh
          exact (ScalarText.num hl hvalue).valueText levels
  | arr items ih =>
      obtain ⟨levels, rfl⟩ := Nat.exists_eq_add_one.2 (Nat.zero_lt_of_lt hdepth)
      exact Or.inr (Or.inl (arrayText_render fun j hmem ↦
        ih j hmem (wellFormed_arr.1 hj j hmem) (floatless_arr.1 hfloat j hmem)
          (depth_arr_le.1 hdepth j hmem)))
  | obj ms ih =>
      obtain ⟨levels, rfl⟩ := Nat.exists_eq_add_one.2 (Nat.zero_lt_of_lt hdepth)
      obtain ⟨hsorted, hms⟩ := wellFormed_obj.1 hj
      exact Or.inr (Or.inr (objectText_render (forall₂_stands fun m hmem ↦
        ih m hmem (hms m hmem) (floatless_obj.1 hfloat m hmem) (depth_obj_le.1 hdepth m hmem))
        hsorted.latest))

theorem toList_print (j : Json) : j.print.toList = j.render := String.toList_ofList

theorem written_print (hj : WellFormed j) (hfloat : Floatless j) (hdepth : j.depth ≤ levels) :
    Written levels j.print j := by
  rw [Written, toList_print]
  exact .of (valueText_render hj hfloat hdepth)

theorem read_print (hj : WellFormed j) (hfloat : Floatless j) (hdepth : j.depth ≤ 127) :
    read j.print = .ok j :=
  read_eq_ok_iff.2 (written_print hj hfloat hdepth)

theorem valueText_render_record (hpairs : ∀ m ∈ pairs, WellFormed m.2 ∧ Floatless m.2)
    (hdepth : (Json.obj pairs).depth ≤ levels) :
    ValueText levels (Json.obj pairs).render (.obj (Members.ofList pairs)) := by
  obtain ⟨levels, rfl⟩ := Nat.exists_eq_add_one.2 (Nat.zero_lt_of_lt hdepth)
  exact Or.inr (Or.inr (objectText_render (forall₂_stands fun m hm ↦
    valueText_render (hpairs m hm).1 (hpairs m hm).2 (depth_obj_le.1 hdepth m hm))
    (Members.latest_ofList pairs)))

theorem written_print_record (hpairs : ∀ m ∈ pairs, WellFormed m.2 ∧ Floatless m.2)
    (hdepth : (Json.obj pairs).depth ≤ levels) :
    Written levels (Json.obj pairs).print (.obj (Members.ofList pairs)) := by
  rw [Written, toList_print]
  exact .of (valueText_render_record hpairs hdepth)

end Values

/-- No control characters stand in the text, so it is one line. -/
def Unbroken (cs : List Char) : Prop := ∀ c ∈ cs, 0x20 ≤ c.toNat

section Lines

variable {cs ds : List Char} {items : List Json} {j : Json} {ms : List (String × Json)}

@[simp] theorem unbroken_nil : Unbroken [] := nofun

@[simp] theorem unbroken_cons {c : Char} : Unbroken (c :: cs) ↔ 0x20 ≤ c.toNat ∧ Unbroken cs :=
  List.forall_mem_cons

@[simp] theorem unbroken_append : Unbroken (cs ++ ds) ↔ Unbroken cs ∧ Unbroken ds :=
  List.forall_mem_append

theorem unbroken_escapeChar (c : Char) : Unbroken (escapeChar c) := by
  have hdigit : ∀ n < 16, 0x20 ≤ (hexDigit n).toNat := by decide
  by_cases hc : c.toNat < 0x20
  · have hhigh := hdigit (c.toNat / 16) (by omega)
    have hlow := hdigit (c.toNat % 16) (by omega)
    rw [escapeChar]
    split_ifs <;> simp [hhigh, hlow]
  · rw [escapeChar]
    split_ifs <;> simp [Nat.not_lt.1 hc]

theorem unbroken_quoted (cs : List Char) : Unbroken (quoted cs) := by
  have hinside : Unbroken (cs.flatMap escapeChar) := by
    intro c hc
    obtain ⟨d, -, hd⟩ := List.mem_flatMap.1 hc
    exact unbroken_escapeChar d c hd
  simp [quoted, hinside]

theorem unbroken_intText (k : Int) : Unbroken (intText k) := by
  have hdigits : ∀ n, Unbroken (Nat.toDigits 10 n) := by
    intro n c hc
    have hdigit := (digits_toDigits n).2 c hc
    have hlow : '0' ≤ c := by simpa using (Bool.and_eq_true_iff.1 hdigit).1
    exact le_trans (by decide) hlow
  rw [intText]
  split <;> simp [hdigits]

theorem unbroken_renderItems (h : ∀ j ∈ items, Unbroken j.render) :
    Unbroken (renderItems items) := by
  induction items with
  | nil => exact unbroken_nil
  | cons j items ih =>
      obtain ⟨hj, hitems⟩ := List.forall_mem_cons.1 h
      cases items with
      | nil => exact hj
      | cons j' items => simp [renderItems, hj, ih hitems]

theorem unbroken_renderMembers (h : ∀ m ∈ ms, Unbroken m.2.render) :
    Unbroken (renderMembers ms) := by
  induction ms with
  | nil => exact unbroken_nil
  | cons m ms ih =>
      obtain ⟨hm, hms⟩ := List.forall_mem_cons.1 h
      have hname := unbroken_quoted m.1.toList
      cases ms with
      | nil => simp [renderMembers, hname, hm]
      | cons m' ms => simp [renderMembers, hname, hm, ih hms]

theorem unbroken_render (hfloat : Floatless j) : Unbroken j.render := by
  induction j using induction_on_contents with
  | null => simp [render]
  | bool b => cases b <;> simp [render]
  | str s =>
      rw [render]
      exact unbroken_quoted s.toList
  | num n =>
      cases n with
      | float x => exact absurd .self (hfloat x)
      | int k =>
          rw [render]
          exact unbroken_intText k
  | arr items ih =>
      have hitems := unbroken_renderItems fun j hmem ↦ ih j hmem (floatless_arr.1 hfloat j hmem)
      simp [render, hitems]
  | obj ms ih =>
      have hms := unbroken_renderMembers fun m hmem ↦ ih m hmem (floatless_obj.1 hfloat m hmem)
      simp [render, hms]

end Lines

end EventFeed.Json
