import EventFeed.Json.Shape
import EventFeed.Proofs.Json.Grammar

/-!
# What a record is read from

A record is checked member by member before it is built. If its shape `Checks` what it builds from,
the checks add nothing as long as no name stands twice: `read_object` and `read_array` say that a
record is read exactly when it can be built, and from an array if its length allows it.
-/

namespace EventFeed.Json

/-- A member that may be missing: what it is, or the value that stands for it. -/
inductive Given (make : α → Json) (default : α) : Option Json → α → Prop
  | absent : Given make default none default
  | present (a : α) : Given make default (some (make a)) a

@[simp] theorem given_some {make : α → Json} {default a : α} {j : Json} :
    Given make default (some j) a ↔ j = make a := by
  constructor
  · rintro ⟨⟩
    rfl
  · rintro rfl
    exact .present a

@[simp] theorem given_none {make : α → Json} {default a : α} :
    Given make default none a ↔ a = default := by
  constructor
  · rintro ⟨⟩
    rfl
  · rintro rfl
    exact .absent

theorem asText_eq_ok_iff {j : Json} {s : String} : asText j = .ok s ↔ j = .str s := by
  cases j <;> simp [asText]

theorem asMembers_eq_ok_iff {j : Json} {ms : Members} : asMembers j = .ok ms ↔ j = .obj ms := by
  cases j <;> simp [asMembers]

theorem asBool_eq_ok_iff {j : Json} {b : Bool} : asBool j = .ok b ↔ j = .bool b := by
  cases j <;> simp [asBool]

theorem asWord_eq_ok_iff {limit n : Nat} {name : String} {j : Json} :
    asWord limit name j = .ok n ↔ j = .nat n ∧ n < limit := by
  constructor
  · intro h
    cases j with
    | num number =>
        cases number with
        | float x => cases h
        | int k =>
            rw [asWord] at h
            split at h
            · next hbounds =>
              cases h
              rw [Bool.and_eq_true, decide_eq_true_eq, decide_eq_true_eq] at hbounds
              obtain ⟨hlow, hhigh⟩ := hbounds
              exact ⟨by rw [nat, Int.toNat_of_nonneg hlow], (Int.toNat_lt hlow).2 hhigh⟩
            · cases h
    | _ => cases h
  · rintro ⟨rfl, hlimit⟩
    simp [nat, asWord, hlimit]

/-- Words of a type, whose values are the numbers below the limit. -/
theorem map_asWord_eq_ok_iff {limit : Nat} {name : String} {ofNat : Nat → α} {toNat : α → Nat}
    (hlt : ∀ a, toNat a < limit) (hofNat : ∀ a, ofNat (toNat a) = a)
    (htoNat : ∀ n < limit, toNat (ofNat n) = n) {j : Json} {a : α} :
    (asWord limit name j).map ofNat = .ok a ↔ j = .nat (toNat a) := by
  constructor
  · intro h
    cases hword : asWord limit name j with
    | error e => simp [hword, Except.map] at h
    | ok n =>
        obtain ⟨rfl, hn⟩ := asWord_eq_ok_iff.1 hword
        simp only [hword, Except.map, Except.ok.injEq] at h
        rw [← h, htoNat n hn]
  · rintro rfl
    rw [asWord_eq_ok_iff.2 ⟨rfl, hlt a⟩]
    exact congrArg Except.ok (hofNat a)

theorem asList_eq_ok_iff {item : Json → Except ShapeError α} {make : α → Json}
    (hitem : ∀ {j a}, item j = .ok a ↔ j = make a) {j : Json} {as : List α} :
    asList item j = .ok as ↔ j = .arr (as.map make) := by
  have hitems : ∀ {items : List Json} {as : List α},
      items.mapM item = .ok as ↔ items = as.map make := by
    intro items
    induction items with
    | nil => intro as; cases as <;> simp [pure, Except.pure]
    | cons j items ih =>
        intro as
        rw [List.mapM_cons, bind_eq_ok_iff]
        constructor
        · rintro ⟨a, ha, h⟩
          obtain ⟨rest, hrest, h⟩ := bind_eq_ok_iff.1 h
          cases h
          rw [List.map_cons, hitem.1 ha, ih.1 hrest]
        · intro h
          cases as with
          | nil => cases h
          | cons a as =>
              obtain ⟨hj, hrest⟩ := List.cons.inj h
              exact ⟨a, hitem.2 hj, bind_eq_ok_iff.2 ⟨as, ih.2 hrest, rfl⟩⟩
  cases j <;> simp [asList, hitems]

theorem asVariant_str {variants : List (String × α)} {name : String} {a : α}
    (h : variants.lookup name = some a) : asVariant variants (.str name) = .ok a := by
  simp [asVariant, asVariant.find, h]

theorem ofText?_of_ok {item : Json → Except ShapeError α} {text : String} {j : Json} {a : α}
    (hread : read text = .ok j) (hitem : item j = .ok a) : ofText? item text = some a := by
  simp [ofText?, hread, hitem, Except.toOption]

namespace Shape

/-- What is built from members has passed the check of each field. -/
def Checks (shape : Shape α) : Prop :=
  ∀ ms a, shape.build ms = .ok a → ∀ f ∈ shape.fields, ∀ j, ms.get? f.name = some j →
    f.check j = .ok ()

/-- What is built depends on the fields alone. -/
def Local (shape : Shape α) : Prop :=
  ∀ ms ms' : Members, (∀ f ∈ shape.fields, ms.get? f.name = ms'.get? f.name) →
    shape.build ms = shape.build ms'

section Parts

variable {a : α} {default : α} {fields : List Field} {item : Json → Except ShapeError α}
  {make : α → Json} {ms : Members} {name : String} {shape : Shape α}

theorem checks_pure (a : α) : (pure a : Shape α).Checks := fun _ _ _ _ hf ↦ nomatch hf

theorem Checks.seq {f : Shape (α → β)} (hf : f.Checks) (hshape : shape.Checks) :
    (f <*> shape).Checks := by
  intro ms b hbuild field hfield
  obtain ⟨g, hg, hbuild⟩ := bind_eq_ok_iff.1 hbuild
  obtain ⟨a, ha, -⟩ := bind_eq_ok_iff.1 hbuild
  rcases List.mem_append.1 hfield with hfield | hfield
  · exact hf ms g hg field hfield
  · exact hshape ms a ha field hfield

theorem Checks.map (f : α → β) (hshape : shape.Checks) : (f <$> shape).Checks :=
  (checks_pure f).seq hshape

theorem checks_optional : (optional name item default).Checks := by
  intro ms a hbuild f hf j hj
  obtain rfl := List.mem_singleton.1 hf
  simp only [optional, hj] at hbuild ⊢
  rw [hbuild]
  rfl

theorem checks_required : (required name item).Checks := by
  intro ms a hbuild f hf j hj
  obtain rfl := List.mem_singleton.1 hf
  simp only [required, hj] at hbuild ⊢
  rw [hbuild]
  rfl

theorem local_pure (a : α) : (pure a : Shape α).Local := fun _ _ _ ↦ rfl

theorem Local.seq {f : Shape (α → β)} (hf : f.Local) (hshape : shape.Local) :
    (f <*> shape).Local := by
  intro ms ms' h
  have hleft := hf ms ms' fun field hfield ↦ h field (List.mem_append_left _ hfield)
  have hright := hshape ms ms' fun field hfield ↦ h field (List.mem_append_right _ hfield)
  show (do return (← f.build ms) (← shape.build ms)) =
    (do return (← f.build ms') (← shape.build ms'))
  rw [hleft, hright]

theorem Local.map (f : α → β) (hshape : shape.Local) : (f <$> shape).Local :=
  (local_pure f).seq hshape

theorem local_optional : (optional name item default).Local := by
  intro ms ms' h
  have hget : ms.get? name = ms'.get? name := h _ (List.mem_singleton_self _)
  simp only [optional, hget]

theorem build_optional (hitem : ∀ {j a}, item j = .ok a ↔ j = make a) :
    (optional name item default).build ms = .ok a ↔ Given make default (ms.get? name) a := by
  cases hget : ms.get? name with
  | none => simp [optional, hget, eq_comm]
  | some j => simp [optional, hget, hitem]

theorem build_required (hitem : ∀ {j a}, item j = .ok a ↔ j = make a) :
    (required name item).build ms = .ok a ↔ ms.get? name = some (make a) := by
  cases hget : ms.get? name with
  | none => simp [required, hget]
  | some j => simp [required, hget, hitem]

theorem build_required_of {j : Json} (hget : ms.get? name = some j) (hitem : item j = .ok a) :
    (required name item).build ms = .ok a := by
  simp [required, hget, hitem]

/-- A text that may be missing. -/
theorem build_optional_text {text : Option String} (hget : ms.get? name = text.map .str) :
    (optional name (asOption asText) none).build ms = .ok text := by
  cases text with
  | none => simp [optional, hget]
  | some s => simp [optional, hget, asOption, asText, Except.map]

theorem build_seq {f : Shape (α → β)} {b : β} : (f <*> shape).build ms = .ok b ↔
    ∃ g a, f.build ms = .ok g ∧ shape.build ms = .ok a ∧ g a = b := by
  constructor
  · intro h
    obtain ⟨g, hg, h⟩ := bind_eq_ok_iff.1 h
    obtain ⟨a, ha, h⟩ := bind_eq_ok_iff.1 h
    cases h
    exact ⟨g, a, hg, ha, rfl⟩
  · rintro ⟨g, a, hg, ha, rfl⟩
    exact bind_eq_ok_iff.2 ⟨g, hg, bind_eq_ok_iff.2 ⟨a, ha, rfl⟩⟩

theorem build_map (f : α → β) {b : β} :
    (f <$> shape).build ms = .ok b ↔ ∃ a, shape.build ms = .ok a ∧ f a = b := by
  constructor
  · intro h
    obtain ⟨g, a, hg, ha, hb⟩ := build_seq.1 h
    cases hg
    exact ⟨a, ha, hb⟩
  · rintro ⟨a, ha, rfl⟩
    exact build_seq.2 ⟨f, a, rfl, ha, rfl⟩

theorem checkMembers_eq_ok_iff : checkMembers fields ms = .ok () ↔
    ∀ m ∈ ms, ∀ f ∈ fields.find? (·.name = m.1), f.check m.2 = .ok () := by
  induction ms with
  | nil => simp [checkMembers]; rfl
  | cons m ms ih =>
      rw [List.forall_mem_cons, ← ih]
      show (_ >>= fun _ ↦ checkMembers fields ms) = _ ↔ _
      rw [bind_eq_ok_iff]
      cases hfind : fields.find? (·.name = m.1) with
      | none => simp [hfind]
      | some f =>
          simp only [hfind, Option.mem_some_iff, forall_eq']
          constructor
          · rintro ⟨⟨⟩, hcheck, hrest⟩
            exact ⟨hcheck, hrest⟩
          · rintro ⟨hcheck, hrest⟩
            exact ⟨(), hcheck, hrest⟩

/-- Members that are no fields are passed over. -/
theorem checkMembers_filter (ms : Members) :
    checkMembers fields (ms.filter fun m ↦ m.1 ∈ fields.map (·.name)) =
      checkMembers fields ms := by
  induction ms with
  | nil => rfl
  | cons m ms ih =>
      by_cases hm : m.1 ∈ fields.map (·.name)
      · rw [List.filter_cons_of_pos (by simpa using hm)]
        show (_ >>= fun _ ↦ checkMembers fields (ms.filter _)) =
          (_ >>= fun _ ↦ checkMembers fields ms)
        rw [ih]
      · have hfind : fields.find? (·.name = m.1) = none := by
          rw [List.find?_eq_none]
          intro f hf hname
          exact hm (List.mem_map.2 ⟨f, hf, by simpa using hname⟩)
        rw [List.filter_cons_of_neg (by simpa using hm), ih]
        show _ = (_ >>= fun _ ↦ checkMembers fields ms)
        simp only [hfind]
        rfl

theorem checkLength_eq_ok_iff {length : Nat} : checkLength name fields length = .ok () ↔
    (∀ f ∈ fields.drop length, f.required = false) ∧ length ≤ fields.length := by
  rw [checkLength]
  cases hmissing : (fields.drop length).findIdx? (·.required) with
  | some i =>
      obtain ⟨f, hf, hrequired⟩ : ∃ f ∈ fields.drop length, f.required = true := by
        rw [← List.any_eq_true, ← List.findIdx?_isSome, hmissing]
        rfl
      simp only [reduceCtorEq, false_iff, not_and]
      intro hnone
      exact absurd (hnone f hf) (by simp [hrequired])
  | none =>
      rw [List.findIdx?_eq_none_iff] at hmissing
      by_cases hlength : fields.length < length
      · simp [hlength]
      · simp only [hlength, ↓reduceIte, true_iff]
        exact ⟨hmissing, Nat.not_lt.1 hlength⟩

end Parts

section Read

variable {a : α} {items : List Json} {ms : Members} {shape : Shape α} {name : String}

theorem checkMembers_of_build (hshape : shape.Checks) (hnodup : (ms.map (·.1)).Nodup)
    (hbuild : shape.build ms = .ok a) : checkMembers shape.fields ms = .ok () := by
  rw [checkMembers_eq_ok_iff]
  intro m hm f hf
  have hname : f.name = m.1 := by simpa using List.find?_some hf
  refine hshape ms a hbuild f (List.mem_of_find?_eq_some hf) m.2 ?_
  rw [hname]
  exact (Members.mem_iff_of_nodup hnodup).1 hm

theorem nodup_zip {names : List String} (h : names.Nodup) (items : List Json) :
    ((names.zip items).map (·.1)).Nodup := by
  induction names generalizing items with
  | nil => simp
  | cons k names ih =>
      obtain ⟨hfirst, hrest⟩ := List.nodup_cons.1 h
      cases items with
      | nil => simp
      | cons j items =>
          rw [List.zip_cons_cons, List.map_cons, List.nodup_cons]
          refine ⟨fun hmem ↦ ?_, ih hrest items⟩
          obtain ⟨p, hp, rfl⟩ := List.mem_map.1 hmem
          exact hfirst (List.of_mem_zip hp).1

/-- The members of an object that is read stand in the order of their names. -/
theorem read_object (hshape : shape.Checks) (hms : ms.Sorted) :
    shape.read name (.obj ms) = .ok a ↔ shape.build ms = .ok a := by
  constructor
  · intro h
    obtain ⟨-, -, hbuild⟩ := bind_eq_ok_iff.1 h
    exact hbuild
  · intro hbuild
    exact bind_eq_ok_iff.2 ⟨(), checkMembers_of_build hshape hms.nodup hbuild, hbuild⟩

/-- Two objects that agree in the fields are read alike, with the same fault if there is one. -/
theorem read_congr {ms' : Members} (hshape : shape.Local) (hms : ms.Sorted) (hms' : ms'.Sorted)
    (h : ∀ f ∈ shape.fields, ms.get? f.name = ms'.get? f.name) :
    shape.read name (.obj ms) = shape.read name (.obj ms') := by
  have hknown : (ms.filter fun m ↦ m.1 ∈ shape.fields.map (·.name)) =
      ms'.filter fun m ↦ m.1 ∈ shape.fields.map (·.name) := by
    refine Members.Sorted.ext (hms.filter _) (hms'.filter _) fun key ↦ ?_
    rw [Members.get?_filter (· ∈ shape.fields.map (·.name)),
      Members.get?_filter (· ∈ shape.fields.map (·.name))]
    split
    · next hkey =>
      obtain ⟨f, hf, rfl⟩ := List.mem_map.1 (of_decide_eq_true hkey)
      exact h f hf
    · rfl
  show (do checkMembers shape.fields ms; shape.build ms) =
    (do checkMembers shape.fields ms'; shape.build ms')
  rw [← checkMembers_filter ms, hknown, checkMembers_filter ms', hshape ms ms' h]

theorem read_array (hshape : shape.Checks) (hfields : (shape.fields.map (·.name)).Nodup) :
    shape.read name (.arr items) = .ok a ↔
      checkLength name shape.fields items.length = .ok () ∧
        shape.build ((shape.fields.map (·.name)).zip items) = .ok a := by
  constructor
  · intro h
    obtain ⟨-, -, h⟩ := bind_eq_ok_iff.1 h
    obtain ⟨⟨⟩, hlength, hbuild⟩ := bind_eq_ok_iff.1 h
    exact ⟨hlength, hbuild⟩
  · rintro ⟨hlength, hbuild⟩
    exact bind_eq_ok_iff.2 ⟨(), checkMembers_of_build hshape (nodup_zip hfields items) hbuild,
      bind_eq_ok_iff.2 ⟨(), hlength, hbuild⟩⟩

end Read

end Shape

end EventFeed.Json
