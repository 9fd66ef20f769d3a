import EventFeed.Json.Merge
import EventFeed.Proofs.Json.Members

/-!
# The members of merged objects

`Json.overlay target source` is what stands under a name after a merge, by what stood there in the
target and in the source. `Members.get?_mergeMembers` says so of every name, provided that the
source has each name once.
-/

namespace EventFeed

namespace Json

/-- A member of the source over one of the target. Nothing and `null` leave the target's. -/
def overlay (target : Option Json) : Option Json → Option Json
  | none => target
  | some .null => target
  | some v => some (target.elim v (merge · v))

@[simp] theorem overlay_none (target : Option Json) : overlay target none = target := rfl

@[simp] theorem overlay_null (target : Option Json) : overlay target (some .null) = target := rfl

theorem overlay_of_ne_null (target : Option Json) {v : Json} (hv : v ≠ .null) :
    overlay target (some v) = some (target.elim v (merge · v)) := by
  cases v <;> first | contradiction | rfl

/-- What stands under a name. A `null` stands for nothing. -/
def present : Option Json → Option Json
  | some .null => none
  | found => found

theorem present_of_ne_null {v : Json} (hv : v ≠ .null) : present (some v) = some v := by
  cases v <;> first | contradiction | rfl

@[simp] theorem merge_obj (ms source : Members) :
    (Json.obj ms).merge (.obj source) = .obj (mergeMembers ms source) := by
  rw [merge]

/-- Only an object is merged into, by another. -/
theorem merge_of_ne_obj {target : Json} (h : ∀ ms, target ≠ .obj ms) (v : Json) :
    target.merge v = v := by
  cases v with
  | obj source =>
      rw [merge]
      exact fun ms hms ↦ absurd hms (h ms)
  | _ => rw [merge]; nofun

/-- Nothing of a target that is no object is left when the source has a value. -/
theorem overlay_eq_getD {d : Json} (hd : ∀ ms, d ≠ .obj ms) (found : Option Json) :
    overlay (some d) found = some ((present found).getD d) := by
  cases found with
  | none => rfl
  | some v =>
      by_cases hv : v = .null
      · subst hv
        rfl
      · rw [overlay_of_ne_null _ hv, present_of_ne_null hv, Option.getD_some]
        exact congrArg some (merge_of_ne_obj hd v)

@[simp] theorem mergeMembers_nil (target : Members) : mergeMembers target [] = target := by
  rw [mergeMembers]

theorem mergeMembers_null (target : Members) (k : String) (source : List (String × Json)) :
    mergeMembers target ((k, .null) :: source) = mergeMembers target source := by
  rw [mergeMembers]

theorem mergeMembers_cons (target : Members) (k : String) {v : Json} (hv : v ≠ .null)
    (source : List (String × Json)) :
    mergeMembers target ((k, v) :: source) =
      mergeMembers (target.insert k ((target.get? k).elim v (merge · v))) source := by
  rw [mergeMembers]
  case x_1 => exact hv
  cases target.get? k <;> rfl

end Json

namespace Members

variable {ms source : Members}

theorem Sorted.mergeMembers (h : ms.Sorted) (source : List (String × Json)) :
    Sorted (Json.mergeMembers ms source) := by
  induction source generalizing ms with
  | nil => rwa [Json.mergeMembers_nil]
  | cons m source ih =>
      obtain ⟨k, v⟩ := m
      by_cases hv : v = .null
      · rw [hv, Json.mergeMembers_null]
        exact ih h
      · rw [Json.mergeMembers_cons _ _ hv]
        exact ih (h.insert _ _)

theorem get?_mergeMembers (h : (source.map (·.1)).Nodup) (key : String) :
    (Json.mergeMembers ms source).get? key = Json.overlay (ms.get? key) (source.get? key) := by
  induction source generalizing ms with
  | nil => simp
  | cons m source ih =>
      obtain ⟨k, v⟩ := m
      rw [List.map_cons, List.nodup_cons] at h
      obtain ⟨hfirst, hrest⟩ := h
      -- What stands under the first name is not touched again.
      have hnone : get? source k = none := by
        cases hget : get? source k with
        | none => rfl
        | some w => exact absurd (List.mem_map.2 ⟨_, mem_of_get? hget, rfl⟩) hfirst
      by_cases hv : v = .null
      · rw [hv, Json.mergeMembers_null, ih hrest, get?_cons]
        by_cases hkey : key = k <;> simp [hkey, hnone]
      · rw [Json.mergeMembers_cons _ _ hv, ih hrest, get?_cons, get?_insert]
        by_cases hkey : key = k <;> simp [hkey, hnone, Json.overlay_of_ne_null _ hv]

end Members

end EventFeed
