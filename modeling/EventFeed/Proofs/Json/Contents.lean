import EventFeed.Proofs.Json.Reading

/-!
# What a value holds

`Inside v j` says that `v` stands somewhere in `j`, and `depth` counts the arrays and objects that
stand in one another. A value that is read is `WellFormed` and no deeper than the reader allows
(`ValueText.wellFormed`, `ValueText.depth_le`).
-/

namespace EventFeed.Json

/-- `j` is `v` or holds it. -/
inductive Inside (v : Json) : Json → Prop
  | self : Inside v v
  | item (hj : j ∈ items) (h : Inside v j) : Inside v (.arr items)
  | member (hm : m ∈ ms) (h : Inside v m.2) : Inside v (.obj ms)

mutual

def depth : Json → Nat
  | .null | .bool _ | .num _ | .str _ => 0
  | .arr items => depthItems items + 1
  | .obj members => depthMembers members + 1

def depthItems : List Json → Nat
  | [] => 0
  | j :: js => max j.depth (depthItems js)

def depthMembers : List (String × Json) → Nat
  | [] => 0
  | (_, j) :: ms => max j.depth (depthMembers ms)

end

/-- Members stand in the order of their names, each name once, and integers fit 64 bits, with a
sign or without one. -/
structure WellFormed (j : Json) : Prop where
  sorted : Inside (.obj ms) j → Members.Sorted ms
  bounds : Inside (.num (.int k)) j → -2 ^ 63 ≤ k ∧ k < 2 ^ 64

/-- No floating point numbers stand in the value. -/
def Floatless (j : Json) : Prop := ∀ x, ¬ Inside (.num (.float x)) j

section Inside

variable {items : List Json} {j v : Json} {levels n : Nat} {m : String × Json}
  {ms : List (String × Json)} {w : List Char}

theorem Inside.eq_of_depth_eq_zero (h : Inside v j) (hj : j.depth = 0) : v = j := by
  cases h with
  | self => rfl
  | item _ _ => simp [depth] at hj
  | member _ _ => simp [depth] at hj

theorem depthItems_le : depthItems items ≤ n ↔ ∀ j ∈ items, j.depth ≤ n := by
  induction items with
  | nil => simp [depthItems]
  | cons j items ih => simp [depthItems, ih]

theorem depthMembers_le : depthMembers ms ≤ n ↔ ∀ m ∈ ms, m.2.depth ≤ n := by
  induction ms with
  | nil => simp [depthMembers]
  | cons m ms ih => simp [depthMembers, ih]

theorem depth_arr_le : (Json.arr items).depth ≤ n + 1 ↔ ∀ j ∈ items, j.depth ≤ n := by
  rw [depth, Nat.add_le_add_iff_right, depthItems_le]

theorem depth_obj_le : (Json.obj ms).depth ≤ n + 1 ↔ ∀ m ∈ ms, m.2.depth ≤ n := by
  rw [depth, Nat.add_le_add_iff_right, depthMembers_le]

theorem plain_str {s : String} : WellFormed (.str s) ∧ Floatless (.str s) :=
  ⟨⟨nofun, nofun⟩, nofun⟩

theorem plain_null : WellFormed .null ∧ Floatless .null :=
  ⟨⟨nofun, nofun⟩, nofun⟩

theorem plain_bool {b : Bool} : WellFormed (.bool b) ∧ Floatless (.bool b) :=
  ⟨⟨nofun, nofun⟩, nofun⟩

theorem floatless_int {k : Int} : Floatless (.num (.int k)) := nofun

theorem wellFormed_int {k : Int} :
    WellFormed (.num (.int k)) ↔ -2 ^ 63 ≤ k ∧ k < 2 ^ 64 := by
  constructor
  · exact fun h ↦ h.bounds .self
  · intro h
    constructor
    · rintro ms ⟨⟩
    · rintro k ⟨⟩
      exact h

theorem wellFormed_arr : WellFormed (.arr items) ↔ ∀ j ∈ items, WellFormed j := by
  constructor
  · exact fun h j hj ↦ ⟨fun hv ↦ h.sorted (.item hj hv), fun hv ↦ h.bounds (.item hj hv)⟩
  · intro h
    constructor
    · rintro ms (_ | ⟨hj, hv⟩)
      exact (h _ hj).sorted hv
    · rintro k (_ | ⟨hj, hv⟩)
      exact (h _ hj).bounds hv

theorem wellFormed_obj : WellFormed (.obj ms) ↔ Members.Sorted ms ∧ ∀ m ∈ ms, WellFormed m.2 := by
  constructor
  · exact fun h ↦ ⟨h.sorted .self, fun m hm ↦
      ⟨fun hv ↦ h.sorted (.member hm hv), fun hv ↦ h.bounds (.member hm hv)⟩⟩
  · rintro ⟨hms, h⟩
    constructor
    · rintro ms' (_ | _ | ⟨hm, hv⟩)
      · exact hms
      · exact (h _ hm).sorted hv
    · rintro k (_ | _ | ⟨hm, hv⟩)
      exact (h _ hm).bounds hv

theorem floatless_arr : Floatless (.arr items) ↔ ∀ j ∈ items, Floatless j := by
  constructor
  · exact fun h j hj x hx ↦ h x (.item hj hx)
  · rintro h x (_ | ⟨hj, hx⟩)
    exact h _ hj x hx

theorem floatless_obj : Floatless (.obj ms) ↔ ∀ m ∈ ms, Floatless m.2 := by
  constructor
  · exact fun h m hm x hx ↦ h x (.member hm hx)
  · rintro h x (_ | _ | ⟨hm, hx⟩)
    exact h _ hm x hx

theorem plain_nat (hn : n < 2 ^ 64) : WellFormed (nat n) ∧ Floatless (nat n) :=
  ⟨wellFormed_int.2 (by omega), floatless_int⟩

theorem plain_arr (h : ∀ j ∈ items, WellFormed j ∧ Floatless j) :
    WellFormed (.arr items) ∧ Floatless (.arr items) :=
  ⟨wellFormed_arr.2 fun j hj ↦ (h j hj).1, floatless_arr.2 fun j hj ↦ (h j hj).2⟩

theorem plain_obj (hms : Members.Sorted ms) (h : ∀ m ∈ ms, WellFormed m.2 ∧ Floatless m.2) :
    WellFormed (.obj ms) ∧ Floatless (.obj ms) :=
  ⟨wellFormed_obj.2 ⟨hms, fun m hm ↦ (h m hm).1⟩, floatless_obj.2 fun m hm ↦ (h m hm).2⟩

/-- A record, by its fields in any order. -/
theorem plain_record (h : ∀ m ∈ ms, WellFormed m.2 ∧ Floatless m.2) :
    WellFormed (.obj (Members.ofList ms)) ∧ Floatless (.obj (Members.ofList ms)) :=
  plain_obj (Members.sorted_ofList ms) fun m hm ↦ h m ((Members.latest_ofList ms).mem hm)

end Inside

section Read

variable {α : Type} {as : List α} {item : List Char → Json → Prop} {j : Json} {levels : Nat}
  {one : List Char → α → Prop} {w : List Char}

theorem Separated.exists_of_mem (h : Separated one w as) : ∀ a ∈ as, ∃ v, one v a := by
  induction h with
  | single h =>
      intro a ha
      obtain rfl := List.mem_singleton.1 ha
      exact ⟨_, h⟩
  | cons h _ ih =>
      intro a ha
      rcases List.mem_cons.1 ha with rfl | ha
      · exact ⟨_, h⟩
      · exact ih a ha

theorem ArrayText.exists_items (h : ArrayText item w j) :
    ∃ js, j = .arr js ∧ ∀ j ∈ js, ∃ v, item v j := by
  cases h with
  | nil _ => exact ⟨[], rfl, nofun⟩
  | items h =>
      refine ⟨_, rfl, fun j hj ↦ ?_⟩
      obtain ⟨v, hv⟩ := h.exists_of_mem j hj
      exact hv.exists_inside

theorem ObjectText.exists_members (h : ObjectText item w j) :
    ∃ ms : Members, j = .obj ms ∧ ms.Sorted ∧ ∀ m ∈ ms, ∃ v, item v m.2 := by
  cases h with
  | nil _ => exact ⟨[], rfl, .nil, nofun⟩
  | members h hms =>
      refine ⟨_, rfl, hms.sorted, fun m hm ↦ ?_⟩
      obtain ⟨v, hv⟩ := h.exists_of_mem m (hms.mem hm)
      obtain ⟨-, hitem⟩ := hv
      exact hitem.exists_inside

theorem ScalarText.depth_eq_zero (h : ScalarText w j) : j.depth = 0 := by
  cases h <;> rfl

theorem ScalarText.wellFormed (h : ScalarText w j) : WellFormed j := by
  constructor
  · intro ms hms
    obtain rfl := hms.eq_of_depth_eq_zero h.depth_eq_zero
    cases h
  · intro k hk
    obtain rfl := hk.eq_of_depth_eq_zero h.depth_eq_zero
    cases h with
    | num _ hvalue => exact Literal.bounds_of_value hvalue

theorem ValueText.depth_le (h : ValueText levels w j) : j.depth ≤ levels := by
  induction levels generalizing w j with
  | zero => exact (ScalarText.depth_eq_zero h).le
  | succ levels ih =>
      rcases h with h | h | h
      · exact h.depth_eq_zero.trans_le (Nat.zero_le _)
      · obtain ⟨js, rfl, hjs⟩ := h.exists_items
        refine depth_arr_le.2 fun j hj ↦ ?_
        obtain ⟨v, hv⟩ := hjs j hj
        exact ih hv
      · obtain ⟨ms, rfl, -, hms⟩ := h.exists_members
        refine depth_obj_le.2 fun m hm ↦ ?_
        obtain ⟨v, hv⟩ := hms m hm
        exact ih hv

theorem ValueText.wellFormed (h : ValueText levels w j) : WellFormed j := by
  induction levels generalizing w j with
  | zero => exact ScalarText.wellFormed h
  | succ levels ih =>
      rcases h with h | h | h
      · exact h.wellFormed
      · obtain ⟨js, rfl, hjs⟩ := h.exists_items
        refine wellFormed_arr.2 fun j hj ↦ ?_
        obtain ⟨v, hv⟩ := hjs j hj
        exact ih hv
      · obtain ⟨ms, rfl, hsorted, hms⟩ := h.exists_members
        refine wellFormed_obj.2 ⟨hsorted, fun m hm ↦ ?_⟩
        obtain ⟨v, hv⟩ := hms m hm
        exact ih hv

theorem wellFormed_of_read {text : String} (h : read text = .ok j) : WellFormed j := by
  obtain ⟨v, hv⟩ := (read_eq_ok_iff.1 h).exists_inside
  exact hv.wellFormed

end Read

end EventFeed.Json
