import EventFeed.Proofs.Json.Contents
import EventFeed.Proofs.Json.Merging

/-!
# Merged values, path by path

A path of names leads from a value through its objects. What stands at the end of one in a merged
value is put together here from what stands there in the target and in the source, by induction on
the path; that merging the same source twice is merging it once is an induction on the source. The
main result is `merge_laws`.
-/

namespace EventFeed.Json

/-- In every object of the value the members stand in the order of their names, each name once. -/
def Ordered (j : Json) : Prop := ∀ ms, Inside (.obj ms) j → Members.Sorted ms

/-- Somewhere along the path, where it has led through nothing but objects, a member is absent or
`null`. -/
def Yields (j : Json) (path : List String) : Prop :=
  ∃ (before rest : List String) (key : String) (ms : Members),
    path = before ++ key :: rest ∧ j.at? before = some (.obj ms) ∧
      (ms.get? key = none ∨ ms.get? key = some .null)

section Paths

variable {j s t v w : Json} {key : String} {ms source : Members} {path : List String}

@[simp] theorem at?_nil (j : Json) : j.at? [] = some j := rfl

theorem at?_obj_cons (ms : Members) (key : String) (path : List String) :
    (Json.obj ms).at? (key :: path) = (ms.get? key).bind (·.at? path) := rfl

theorem at?_cons_eq_some_iff : j.at? (key :: path) = some v ↔
    ∃ (ms : Members) (w : Json), j = .obj ms ∧ ms.get? key = some w ∧ w.at? path = some v := by
  constructor
  · intro h
    cases j with
    | obj ms =>
        obtain ⟨w, hget, hw⟩ := Option.bind_eq_some_iff.1 h
        exact ⟨ms, w, rfl, hget, hw⟩
    | _ => cases h
  · rintro ⟨ms, w, rfl, hget, hw⟩
    rw [at?_obj_cons, hget, Option.bind_some, hw]

theorem at?_null_eq_some_iff : Json.null.at? path = some v ↔ path = [] ∧ v = .null := by
  cases path with
  | nil => simp [eq_comm]
  | cons key path => simp [at?_cons_eq_some_iff]

theorem Ordered.sorted (h : (Json.obj ms).Ordered) : ms.Sorted := h ms .self

theorem Ordered.member (h : (Json.obj ms).Ordered) (hget : ms.get? key = some v) : v.Ordered :=
  fun fields hfields ↦ h fields (.member (Members.mem_of_get? hget) hfields)

theorem WellFormed.ordered (h : j.WellFormed) : j.Ordered := fun _ hms ↦ h.sorted hms

/-- Only an object takes the place of an object by being merged into it. -/
theorem merge_of_source_ne_obj (t : Json) (h : ∀ ms, v ≠ .obj ms) : t.merge v = v := by
  rw [merge]
  exact fun source hv ↦ absurd hv (h source)

theorem at?_merge_cons (hsource : source.Sorted) (ms : Members) (key : String)
    (path : List String) :
    ((Json.obj ms).merge (.obj source)).at? (key :: path) =
      (overlay (ms.get? key) (source.get? key)).bind (·.at? path) := by
  rw [merge_obj, at?_obj_cons, Members.get?_mergeMembers hsource.nodup]

/-- What the source has at the end of a path, but for objects and `null`, is taken over. -/
theorem at?_merge_of_leaf (hs : s.Ordered) (hat : s.at? path = some v) (hnull : v ≠ .null)
    (hobj : ∀ ms, v ≠ .obj ms) (t : Json) : (t.merge s).at? path = some v := by
  induction path generalizing s t with
  | nil =>
      obtain rfl := Option.some.inj hat
      rw [merge_of_source_ne_obj t hobj, at?_nil]
  | cons key path ih =>
      obtain ⟨source, w, rfl, hget, hw⟩ := at?_cons_eq_some_iff.1 hat
      have hne : w ≠ .null := by
        rintro rfl
        exact hnull (at?_null_eq_some_iff.1 hw).2
      by_cases ht : ∃ ms : Members, t = .obj ms
      · obtain ⟨ms, rfl⟩ := ht
        rw [at?_merge_cons hs.sorted, hget, overlay_of_ne_null _ hne]
        cases ms.get? key with
        | none => exact hw
        | some u => exact ih (hs.member hget) hw u
      · rw [merge_of_ne_obj (not_exists.1 ht), hat]

/-- Where the source has nothing to say on the way, the target's value stays. -/
theorem at?_merge_of_yields (hs : s.Ordered) (hyields : s.Yields path)
    (hat : t.at? path = some v) : (t.merge s).at? path = some v := by
  obtain ⟨before, rest, key, fields, rfl, hbefore, hkey⟩ := hyields
  induction before generalizing s t with
  | nil =>
      obtain rfl := Option.some.inj hbefore
      obtain ⟨ms, w, rfl, hget, hw⟩ := at?_cons_eq_some_iff.1 hat
      have hoverlay : overlay (some w) (fields.get? key) = some w := by
        rcases hkey with hkey | hkey <;> rw [hkey] <;> rfl
      rw [List.nil_append, at?_merge_cons hs.sorted, hget, hoverlay, Option.bind_some, hw]
  | cons first before ih =>
      obtain ⟨source, w, rfl, hget, hw⟩ := at?_cons_eq_some_iff.1 hbefore
      obtain ⟨ms, u, rfl, hfirst, hu⟩ := at?_cons_eq_some_iff.1 hat
      have hne : w ≠ .null := by
        rintro rfl
        cases (at?_null_eq_some_iff.1 hw).2
      rw [List.cons_append, at?_merge_cons hs.sorted, hget, hfirst, overlay_of_ne_null _ hne]
      exact ih (hs.member hget) hu hw

/-- Merging makes no new paths. -/
theorem exists_at?_of_merge (hs : s.Ordered) (hat : (t.merge s).at? path = some v) :
    (∃ u, t.at? path = some u) ∨ ∃ u, s.at? path = some u := by
  induction path generalizing s t with
  | nil => exact .inl ⟨t, rfl⟩
  | cons key path ih =>
      by_cases ht : ∃ ms : Members, t = .obj ms
      · by_cases hsource : ∃ ms : Members, s = .obj ms
        · obtain ⟨ms, rfl⟩ := ht
          obtain ⟨source, rfl⟩ := hsource
          rw [at?_merge_cons hs.sorted] at hat
          rw [at?_obj_cons, at?_obj_cons]
          cases hget : source.get? key with
          | none =>
              rw [hget, overlay_none] at hat
              exact .inl ⟨v, hat⟩
          | some w =>
              by_cases hnull : w = .null
              · rw [hget, hnull, overlay_null] at hat
                exact .inl ⟨v, hat⟩
              · rw [hget, overlay_of_ne_null _ hnull, Option.bind_some] at hat
                cases hmember : ms.get? key with
                | none =>
                    rw [hmember] at hat
                    exact .inr ⟨v, hat⟩
                | some u =>
                    rw [hmember] at hat
                    exact ih (hs.member hget) hat
        · rw [merge_of_source_ne_obj t (not_exists.1 hsource)] at hat
          exact .inr ⟨v, hat⟩
      · rw [merge_of_ne_obj (not_exists.1 ht)] at hat
        exact .inr ⟨v, hat⟩

end Paths

section Repeated

variable {j s t : Json}

/-- Induction over objects and their members. -/
theorem ordered_induction {motive : Json → Prop}
    (obj : ∀ ms : Members, (Json.obj ms).Ordered →
      (∀ key v, ms.get? key = some v → motive v) → motive (.obj ms))
    (other : ∀ j, (∀ ms, j ≠ .obj ms) → motive j) (h : j.Ordered) : motive j := by
  generalize hdepth : j.depth = n
  induction n using Nat.strong_induction_on generalizing j with
  | _ n ih =>
      by_cases hj : ∃ ms : Members, j = .obj ms
      · obtain ⟨ms, rfl⟩ := hj
        refine obj ms h fun key v hget ↦ ?_
        have hle : v.depth ≤ depthMembers ms :=
          depthMembers_le.1 le_rfl (key, v) (Members.mem_of_get? hget)
        exact ih v.depth (by rw [← hdepth, depth]; omega) (h.member hget) rfl
      · exact other j (not_exists.1 hj)

theorem merge_self (h : j.Ordered) : j.merge j = j := by
  refine ordered_induction (motive := fun j ↦ j.merge j = j) (fun ms hms ih ↦ ?_)
    (fun j hj ↦ merge_of_ne_obj hj j) h
  have hkeep : ∀ key, (mergeMembers ms ms).get? key = ms.get? key := by
    intro key
    rw [Members.get?_mergeMembers hms.sorted.nodup]
    cases hget : ms.get? key with
    | none => rfl
    | some v =>
        by_cases hnull : v = .null
        · rw [hnull, overlay_null]
        · rw [overlay_of_ne_null _ hnull, Option.elim_some, ih key v hget]
  rw [merge_obj, Members.Sorted.ext (hms.sorted.mergeMembers ms) hms.sorted hkeep]

theorem overlay_overlay {target found : Option Json}
    (hself : ∀ v, found = some v → v.merge v = v)
    (hagain : ∀ u v, target = some u → found = some v → (u.merge v).merge v = u.merge v) :
    overlay (overlay target found) found = overlay target found := by
  cases found with
  | none => rfl
  | some v =>
      by_cases hnull : v = .null
      · rw [hnull, overlay_null, overlay_null]
      · rw [overlay_of_ne_null _ hnull, overlay_of_ne_null _ hnull]
        cases target with
        | none => exact congrArg some (hself v rfl)
        | some u => exact congrArg some (hagain u v rfl rfl)

/-- A source that was laid over a target changes nothing when it is laid over it again. -/
theorem merge_merge (ht : t.Ordered) (hs : s.Ordered) : (t.merge s).merge s = t.merge s := by
  refine ordered_induction
    (motive := fun s ↦ ∀ t : Json, t.Ordered → (t.merge s).merge s = t.merge s)
    (fun source hsource ih t ht ↦ ?_)
    (fun s hs t _ ↦ by rw [merge_of_source_ne_obj _ hs, merge_of_source_ne_obj _ hs]) hs t ht
  by_cases hobj : ∃ ms : Members, t = .obj ms
  · obtain ⟨ms, rfl⟩ := hobj
    have hmerged : (mergeMembers ms source).Sorted := ht.sorted.mergeMembers source
    have hkeep : ∀ key, (mergeMembers (mergeMembers ms source) source).get? key =
        (mergeMembers ms source).get? key := by
      intro key
      rw [Members.get?_mergeMembers hsource.sorted.nodup,
        Members.get?_mergeMembers hsource.sorted.nodup]
      exact overlay_overlay (fun v hv ↦ merge_self (hsource.member hv))
        fun u v hu hv ↦ ih key v hv u (ht.member hu)
    rw [merge_obj, merge_obj, Members.Sorted.ext (hmerged.mergeMembers source) hmerged hkeep]
  · rw [merge_of_ne_obj (not_exists.1 hobj), merge_self hsource]

end Repeated

/-- Laying a source over a target: what the source has below its objects is taken over, where the
source yields the target's values stay, and nothing else comes in. Doing it again changes nothing,
nor does laying a value over itself. -/
theorem merge_laws {t s : Json} (ht : t.Ordered) (hs : s.Ordered) :
    (∀ path v, s.at? path = some v → v ≠ .null → (∀ ms, v ≠ .obj ms) →
      (t.merge s).at? path = some v) ∧
    (∀ path v, t.at? path = some v → s.Yields path → (t.merge s).at? path = some v) ∧
    (∀ path v, (t.merge s).at? path = some v →
      (∃ u, t.at? path = some u) ∨ ∃ u, s.at? path = some u) ∧
    (t.merge s).merge s = t.merge s ∧ t.merge t = t :=
  ⟨fun _ _ hat hnull hobj ↦ at?_merge_of_leaf hs hat hnull hobj t,
    fun _ _ hat hyields ↦ at?_merge_of_yields hs hyields hat,
    fun _ _ hat ↦ exists_at?_of_merge hs hat, merge_merge ht hs, merge_self ht⟩

/-- Two objects in one another, a list and a number. -/
def lower : Json :=
  .obj [("client", .obj [("connectTimeoutMs", .nat 5), ("url", .str "ws://a")]),
    ("logging", .nat 1), ("topics", .arr [.str "cases", .str "alerts"])]

/-- A `null` inside, an object for a number, and a list for a list. -/
def upper : Json :=
  .obj [("client", .obj [("connectTimeoutMs", .null), ("url", .str "ws://b")]),
    ("logging", .obj [("json", .null)]), ("topics", .arr [.str "audit"])]

theorem ordered_lower : lower.Ordered := by
  have hclient : ∀ m ∈ [("connectTimeoutMs", nat 5), ("url", .str "ws://a")],
      m.2.WellFormed ∧ m.2.Floatless := by simp [plain_nat, plain_str]
  have htopics : ∀ t ∈ [Json.str "cases", .str "alerts"], t.WellFormed ∧ t.Floatless := by
    simp [plain_str]
  have hsection := plain_obj
    (Members.sorted_of_names ["connectTimeoutMs", "url"] rfl (by decide)) hclient
  exact (plain_obj (Members.sorted_of_names ["client", "logging", "topics"] rfl (by decide))
    (by simp [hsection, plain_arr htopics, plain_nat])).1.ordered

theorem ordered_upper : upper.Ordered := by
  have hclient : ∀ m ∈ [("connectTimeoutMs", Json.null), ("url", .str "ws://b")],
      m.2.WellFormed ∧ m.2.Floatless := by simp [plain_null, plain_str]
  have hlogging : ∀ m ∈ [("json", Json.null)], m.2.WellFormed ∧ m.2.Floatless := by
    simp [plain_null]
  have htopics : ∀ t ∈ [Json.str "audit"], t.WellFormed ∧ t.Floatless := by simp [plain_str]
  have hsection := plain_obj
    (Members.sorted_of_names ["connectTimeoutMs", "url"] rfl (by decide)) hclient
  have hother := plain_obj (Members.sorted_of_names ["json"] rfl (by decide)) hlogging
  exact (plain_obj (Members.sorted_of_names ["client", "logging", "topics"] rfl (by decide))
    (by simp [hsection, hother, plain_arr htopics])).1.ordered

theorem upper_over_lower :
    (lower.merge upper).at? ["client", "url"] = some (.str "ws://b") ∧
      (lower.merge upper).at? ["topics"] = some (.arr [.str "audit"]) ∧
      (lower.merge upper).at? ["client", "connectTimeoutMs"] = some (.nat 5) ∧
      (lower.merge upper).merge upper = lower.merge upper ∧ lower.merge lower = lower := by
  obtain ⟨htaken, hkept, -, hagain, hself⟩ := merge_laws ordered_lower ordered_upper
  have hyields : upper.Yields ["client", "connectTimeoutMs"] :=
    ⟨["client"], [], "connectTimeoutMs", _, rfl, rfl, .inr rfl⟩
  exact ⟨htaken _ _ rfl nofun nofun, htaken _ _ rfl nofun nofun, hkept _ _ rfl hyields, hagain,
    hself⟩

end EventFeed.Json
