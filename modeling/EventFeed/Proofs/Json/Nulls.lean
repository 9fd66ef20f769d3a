import EventFeed.Proofs.Json.Paths

/-!
# Nulls in merged values

A `null` of the source is skipped where the target has an object for it to stand in, and only
there: one at the top takes the place of the target, and one inside an object that is new to the
target comes in with that object. `null_laws` says so for every path, and where each `null` of a
merged value comes from.
-/

namespace EventFeed.Json

/-- The value has an object for the last name of the path to stand in. -/
def Hosts (j : Json) (path : List String) : Prop :=
  ∃ (before : List String) (key : String) (ms : Members),
    path = before ++ [key] ∧ j.at? before = some (.obj ms)

section Paths

variable {j s t v : Json} {key : String} {ms source : Members} {path : List String}

theorem not_hosts_nil (j : Json) : ¬ j.Hosts [] := by
  rintro ⟨before, key, ms, hpath, -⟩
  simp at hpath

theorem hosts_singleton (ms : Members) (key : String) : (Json.obj ms).Hosts [key] :=
  ⟨[], key, ms, rfl, rfl⟩

theorem not_hosts_of_ne_obj (h : ∀ ms, j ≠ .obj ms) (path : List String) : ¬ j.Hosts path := by
  rintro ⟨before, key, ms, -, hat⟩
  cases before with
  | nil => exact h ms (Option.some.inj hat)
  | cons first before =>
      obtain ⟨fields, -, hj, -, -⟩ := at?_cons_eq_some_iff.1 hat
      exact h fields hj

theorem hosts_cons_iff (hpath : path ≠ []) :
    (Json.obj ms).Hosts (key :: path) ↔ ∃ v, ms.get? key = some v ∧ v.Hosts path := by
  constructor
  · rintro ⟨before, last, fields, heq, hat⟩
    cases before with
    | nil => exact absurd (List.cons.inj heq).2 hpath
    | cons first before =>
        obtain ⟨rfl, rfl⟩ := List.cons.inj heq
        obtain ⟨_, v, hms, hget, hv⟩ := at?_cons_eq_some_iff.1 hat
        cases hms
        exact ⟨v, hget, before, last, fields, rfl, hv⟩
  · rintro ⟨v, hget, before, last, fields, rfl, hv⟩
    exact ⟨key :: before, last, fields, rfl, at?_cons_eq_some_iff.2 ⟨ms, v, rfl, hget, hv⟩⟩

theorem Yields.cons (hget : ms.get? key = some v) (h : v.Yields path) :
    (Json.obj ms).Yields (key :: path) := by
  obtain ⟨before, rest, last, fields, rfl, hbefore, hlast⟩ := h
  exact ⟨key :: before, rest, last, fields, rfl,
    at?_cons_eq_some_iff.2 ⟨ms, v, rfl, hget, hbefore⟩, hlast⟩

theorem yields_of_present_eq_none (h : present (ms.get? key) = none) (path : List String) :
    (Json.obj ms).Yields (key :: path) := by
  refine ⟨[], path, key, ms, rfl, rfl, ?_⟩
  cases hget : ms.get? key with
  | none => exact .inl rfl
  | some v =>
      by_cases hv : v = .null
      · exact .inr (congrArg some hv)
      · rw [hget, present_of_ne_null hv] at h
        cases h

theorem merge_eq_null_iff : t.merge s = .null ↔ s = .null := by
  cases s with
  | obj source => cases t <;> simp [merge]
  | _ => simp [merge]

theorem present_eq_some_iff {found : Option Json} :
    present found = some v ↔ found = some v ∧ v ≠ .null := by
  cases found with
  | none => simp [present]
  | some w =>
      by_cases hw : w = .null
      · subst hw
        simp [present, eq_comm]
      · rw [present_of_ne_null hw]
        exact ⟨fun h ↦ ⟨h, Option.some.inj h ▸ hw⟩, And.left⟩

/-- Below two objects a path goes on in the target's member, in the source's, or in both merged. -/
theorem at?_merge_obj (hsource : source.Sorted) (ms : Members) (key : String)
    (path : List String) :
    ((Json.obj ms).merge (.obj source)).at? (key :: path) =
      (present (source.get? key)).elim ((Json.obj ms).at? (key :: path))
        fun w ↦ ((ms.get? key).elim w (merge · w)).at? path := by
  rw [at?_merge_cons hsource]
  cases hget : source.get? key with
  | none => rfl
  | some w =>
      by_cases hw : w = .null
      · subst hw
        rfl
      · rw [overlay_of_ne_null _ hw, present_of_ne_null hw]
        rfl

end Paths

section Nulls

variable {s : Json} {path : List String}

/-- What becomes of a `null` of the source. -/
theorem at?_merge_of_null (hs : s.Ordered) (hat : s.at? path = some .null) (t : Json) :
    (t.Hosts path → (t.merge s).at? path = t.at? path) ∧
      (¬ t.Hosts path → (t.merge s).at? path = some .null) := by
  induction path generalizing s t with
  | nil =>
      obtain rfl := Option.some.inj hat
      refine ⟨fun hhosts ↦ absurd hhosts (not_hosts_nil t), fun _ ↦ ?_⟩
      exact congrArg some (merge_eq_null_iff.2 rfl)
  | cons key path ih =>
      by_cases ht : ∃ ms : Members, t = .obj ms
      · obtain ⟨ms, rfl⟩ := ht
        obtain ⟨source, w, rfl, hget, hw⟩ := at?_cons_eq_some_iff.1 hat
        rw [at?_merge_obj hs.sorted, hget]
        by_cases hnull : w = .null
        · -- The path ends here, beside the members of the target.
          subst hnull
          obtain rfl : path = [] := (at?_null_eq_some_iff.1 hw).1
          exact ⟨fun _ ↦ rfl, fun hnot ↦ absurd (hosts_singleton ms key) hnot⟩
        · have hpath : path ≠ [] := by
            rintro rfl
            exact hnull (Option.some.inj hw)
          rw [present_of_ne_null hnull, Option.elim_some, hosts_cons_iff hpath, at?_obj_cons]
          cases hmember : ms.get? key with
          | none => simpa using hw
          | some u => simpa using ih (hs.member hget) hw u
      · rw [merge_of_ne_obj (not_exists.1 ht)]
        exact ⟨fun hhosts ↦ absurd hhosts (not_hosts_of_ne_obj (not_exists.1 ht) _), fun _ ↦ hat⟩

/-- A `null` comes from the source where it is not skipped, or was there and is left. -/
theorem null_of_merge (hs : s.Ordered) {t : Json} (hat : (t.merge s).at? path = some .null) :
    s.at? path = some .null ∧ ¬ t.Hosts path ∨ t.at? path = some .null ∧ s.Yields path := by
  induction path generalizing s t with
  | nil =>
      have hnull : s = .null := merge_eq_null_iff.1 (Option.some.inj hat)
      exact .inl ⟨congrArg some hnull, not_hosts_nil t⟩
  | cons key path ih =>
      by_cases ht : ∃ ms : Members, t = .obj ms
      · by_cases hsource : ∃ source : Members, s = .obj source
        · obtain ⟨ms, rfl⟩ := ht
          obtain ⟨source, rfl⟩ := hsource
          rw [at?_merge_obj hs.sorted] at hat
          cases hpresent : present (source.get? key) with
          | none =>
              rw [hpresent] at hat
              exact .inr ⟨hat, yields_of_present_eq_none hpresent path⟩
          | some w =>
              obtain ⟨hget, hnull⟩ := present_eq_some_iff.1 hpresent
              have hpath : w.at? path = some .null → path ≠ [] := by
                rintro hw rfl
                exact hnull (Option.some.inj hw)
              rw [hpresent, Option.elim_some] at hat
              rw [at?_obj_cons, at?_obj_cons, hget, Option.bind_some]
              cases hmember : ms.get? key with
              | none =>
                  rw [hmember, Option.elim_none] at hat
                  refine .inl ⟨hat, ?_⟩
                  simp [hosts_cons_iff (hpath hat), hmember]
              | some u =>
                  rw [hmember, Option.elim_some] at hat
                  refine (ih (hs.member hget) hat).imp (fun h ↦ ⟨h.1, ?_⟩)
                    fun h ↦ ⟨h.1, h.2.cons hget⟩
                  simpa [hosts_cons_iff (hpath h.1), hmember] using h.2
        · rw [merge_of_source_ne_obj t (not_exists.1 hsource)] at hat
          obtain ⟨source, -, rfl, -, -⟩ := at?_cons_eq_some_iff.1 hat
          exact absurd ⟨source, rfl⟩ hsource
      · rw [merge_of_ne_obj (not_exists.1 ht)] at hat
        exact .inl ⟨hat, not_hosts_of_ne_obj (not_exists.1 ht) _⟩

end Nulls

/-- A `null` of the source leaves what the target has at the end of its path, if the target has an
object for it to stand in, and takes its place otherwise. A merged value has no other `null` than
those that come from the source so, and those of the target that the source leaves alone. -/
theorem null_laws {s : Json} (hs : s.Ordered) (t : Json) :
    (∀ path, s.at? path = some .null →
      (t.Hosts path → (t.merge s).at? path = t.at? path) ∧
        (¬ t.Hosts path → (t.merge s).at? path = some .null)) ∧
    ∀ path, (t.merge s).at? path = some .null ↔
      s.at? path = some .null ∧ ¬ t.Hosts path ∨ t.at? path = some .null ∧ s.Yields path := by
  refine ⟨fun path hat ↦ at?_merge_of_null hs hat t, fun path ↦ ⟨null_of_merge hs, ?_⟩⟩
  rintro (⟨hat, hnot⟩ | ⟨hat, hyields⟩)
  · exact (at?_merge_of_null hs hat t).2 hnot
  · exact at?_merge_of_yields hs hyields hat

/-- Of the two nulls of `upper` only one is skipped. -/
theorem nulls_of_upper :
    (lower.merge upper).at? ["client", "connectTimeoutMs"] = some (.nat 5) ∧
      (lower.merge upper).at? ["logging", "json"] = some .null := by
  obtain ⟨hnulls, -⟩ := null_laws ordered_upper lower
  have hclient : lower.Hosts ["client", "connectTimeoutMs"] :=
    ⟨["client"], "connectTimeoutMs", _, rfl, rfl⟩
  have hlogging : ¬ lower.Hosts ["logging", "json"] := by
    rw [lower, hosts_cons_iff (by simp)]
    rintro ⟨v, hv, hhosts⟩
    cases hv
    have hnumber : ∀ ms, nat 1 ≠ .obj ms := nofun
    exact not_hosts_of_ne_obj hnumber _ hhosts
  exact ⟨(hnulls _ rfl).1 hclient, (hnulls _ rfl).2 hlogging⟩

theorem null_not_skipped_everywhere :
    ¬ ∀ t s : Json, t.Ordered → s.Ordered → ∀ path, s.at? path = some .null →
      (t.merge s).at? path = t.at? path := by
  intro hskipped
  have hobj : (Json.obj [("a", .nat 1)]).Ordered :=
    (plain_obj (Members.sorted_of_names ["a"] rfl (by decide)) (by simp [plain_nat])).1.ordered
  have hkept := hskipped _ _ hobj plain_null.1.ordered [] rfl
  rw [merge_eq_null_iff.2 rfl] at hkept
  cases hkept

end EventFeed.Json
