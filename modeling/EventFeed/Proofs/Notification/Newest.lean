import EventFeed.Notification.Log

/-!
# The newest record with an id

Several records of a log may have one id. An operation on an id goes to the newest of them, which
`Log.Newest` finds in its place between the newer records and the older ones, and leaves everything
else as it is. If no record has the id, nothing changes. The main result is `Log.newest_concerned`.
-/

namespace EventFeed.Notification.Log

def Has (log : Log) (id : String) : Prop := ∃ r ∈ log.records, r.id = id

/-- The newest record with an id, between the newer records and the older ones. -/
structure Newest (log : Log) (id : String) (newer : List Record) (r : Record)
    (older : List Record) : Prop where
  records : log.records = newer ++ r :: older
  found : r.id = id
  first : ∀ q ∈ newer, q.id ≠ id

section Searches

variable {log : Log} {id : String} {newer older : List Record} {r : Record} {f : Record → Record}

theorem get?_eq_some_iff :
    log.get? id = some r ↔ ∃ newer older, log.Newest id newer r older := by
  rw [get?, List.find?_eq_some_iff_append]
  constructor
  · rintro ⟨hid, newer, older, hrecords, hfirst⟩
    exact ⟨newer, older, hrecords, of_decide_eq_true hid, fun q hq ↦ by simpa using hfirst q hq⟩
  · rintro ⟨newer, older, hrecords, hid, hfirst⟩
    exact ⟨decide_eq_true hid, newer, older, hrecords, fun q hq ↦ by simpa using hfirst q hq⟩

theorem get?_eq_none_iff : log.get? id = none ↔ ¬ log.Has id := by
  simp [get?, Has]

theorem newest_of_has (h : log.Has id) : ∃ newer r older, log.Newest id newer r older := by
  obtain ⟨r, hr⟩ := Option.ne_none_iff_exists'.1 (mt get?_eq_none_iff.1 (not_not_intro h))
  obtain ⟨newer, older, hnewest⟩ := get?_eq_some_iff.1 hr
  exact ⟨newer, r, older, hnewest⟩

theorem isSome_get?_iff : (log.get? id).isSome = true ↔ log.Has id := by
  rw [Option.isSome_iff_ne_none, ne_eq, get?_eq_none_iff, Classical.not_not]

theorem modifyFirst_of_absent {records : List Record} (h : ∀ q ∈ records, q.id ≠ id) :
    modifyFirst id f records = records := by
  induction records with
  | nil => rfl
  | cons q records ih =>
      rw [modifyFirst, if_neg (h q (by simp)), ih fun p hp ↦ h p (by simp [hp])]

theorem modifyFirst_append (hfirst : ∀ q ∈ newer, q.id ≠ id) (hr : r.id = id) :
    modifyFirst id f (newer ++ r :: older) = newer ++ f r :: older := by
  induction newer with
  | nil => exact if_pos hr
  | cons q newer ih =>
      rw [List.cons_append, modifyFirst, if_neg (hfirst q (by simp)),
        ih fun p hp ↦ hfirst p (by simp [hp]), List.cons_append]

end Searches

/-! ## Operations on an id -/

section Operations

variable {log : Log} {id : String} {newer older : List Record} {r : Record}

theorem setRead_of_lacks (h : ¬ log.Has id) (read : Bool) : log.setRead id read = (log, false) := by
  have habsent : ∀ q ∈ log.records, q.id ≠ id := fun q hq hid ↦ h ⟨q, hq, hid⟩
  rw [setRead, modifyFirst_of_absent habsent, get?_eq_none_iff.2 h, Option.isSome_none]

theorem remove_of_lacks (h : ¬ log.Has id) : log.remove id = (log, none) := by
  have habsent : ∀ q ∈ log.records, ¬ decide (q.id = id) = true := by
    intro q hq hid
    exact h ⟨q, hq, of_decide_eq_true hid⟩
  rw [remove, List.eraseP_of_forall_not habsent, get?_eq_none_iff.2 h]

theorem unread_insert (log : Log) (newer older : List Record) (r : Record) :
    unread { log with records := newer ++ r :: older } =
      unread { log with records := newer ++ older } + if r.read then 0 else 1 := by
  cases hread : r.read with
  | false =>
    simp [unread, List.countP_append, hread]
    omega
  | true => simp [unread, List.countP_append, hread]

namespace Newest

variable (h : log.Newest id newer r older)

include h

theorem get?_eq : log.get? id = some r := get?_eq_some_iff.2 ⟨newer, older, h⟩

theorem setRead (read : Bool) :
    log.setRead id read = ({ log with records := newer ++ { r with read } :: older }, true) := by
  rw [Log.setRead, h.get?_eq, h.records, modifyFirst_append h.first h.found, Option.isSome_some]

theorem remove : log.remove id = ({ log with records := newer ++ older }, some r) := by
  have habsent : ∀ q ∈ newer, ¬ decide (q.id = id) = true := by
    intro q hq hid
    exact h.first q hq (of_decide_eq_true hid)
  have herase : (r :: older).eraseP (·.id = id) = older :=
    List.eraseP_cons_of_pos (decide_eq_true h.found)
  rw [Log.remove, h.get?_eq, h.records, List.eraseP_append_right _ habsent, herase]

/-- The newest record with the id counts as unread apart from all others. -/
theorem unread_eq :
    log.unread = unread { log with records := newer ++ older } + if r.read then 0 else 1 := by
  have hparts := log.unread_insert newer older r
  rw [← h.records] at hparts
  exact hparts

end Newest

theorem markAllRead_markAllRead (log : Log) :
    log.markAllRead.1.markAllRead = (log.markAllRead.1, 0) := by
  simp [markAllRead_eq, unread, Function.comp_def]

/-- An operation on an id succeeds exactly if some record has the id. It then concerns the newest
such record alone, and the number of unread records changes exactly if that record becomes read or
unread by it, or leaves unread; and otherwise the log stays as it is. To mark all records as read
tells how many were unread, leaves none of them unread, and has nothing to do a second time. -/
theorem newest_concerned (log : Log) (id : String) :
    (((log.markRead id).2 = true ↔ log.Has id) ∧ ((log.markUnread id).2 = true ↔ log.Has id) ∧
      ((log.remove id).2.isSome = true ↔ log.Has id)) ∧
    (¬ log.Has id ∧ log.markRead id = (log, false) ∧ log.markUnread id = (log, false) ∧
        log.remove id = (log, none) ∨
      ∃ newer r older, log.Newest id newer r older ∧
        (log.markRead id =
            ({ log with records := newer ++ { r with read := true } :: older }, true) ∧
          (log.markRead id).1.unread + (if r.read then 0 else 1) = log.unread) ∧
        (log.markUnread id =
            ({ log with records := newer ++ { r with read := false } :: older }, true) ∧
          (log.markUnread id).1.unread = log.unread + if r.read then 1 else 0) ∧
        (log.remove id = ({ log with records := newer ++ older }, some r) ∧
          (log.remove id).1.unread + (if r.read then 0 else 1) = log.unread)) ∧
    (log.markAllRead.2 = log.unread ∧ log.markAllRead.1.unread = 0 ∧
      log.markAllRead.1.markAllRead = (log.markAllRead.1, 0)) := by
  have hall := log.markAllRead_markAllRead
  have hcount : log.markAllRead.2 = log.unread := by rw [markAllRead_eq]
  have hnone : log.markAllRead.1.unread = 0 := by
    have hagain := congrArg Prod.snd hall
    rwa [markAllRead_eq log.markAllRead.1] at hagain
  refine ⟨⟨isSome_get?_iff, isSome_get?_iff, isSome_get?_iff⟩, ?_, hcount, hnone, hall⟩
  by_cases hhas : log.Has id
  · obtain ⟨newer, r, older, h⟩ := newest_of_has hhas
    have hread := h.setRead true
    have hunread := h.setRead false
    refine Or.inr ⟨newer, r, older, h, ⟨hread, ?_⟩, ⟨hunread, ?_⟩, ⟨h.remove, ?_⟩⟩
    · rw [markRead, hread, unread_insert, h.unread_eq]
      simp
    · rw [markUnread, hunread, unread_insert, h.unread_eq]
      cases r.read <;> simp
    · rw [h.remove, h.unread_eq]
  · exact Or.inl ⟨hhas, setRead_of_lacks hhas true, setRead_of_lacks hhas false,
      remove_of_lacks hhas⟩

end Operations

end EventFeed.Notification.Log
