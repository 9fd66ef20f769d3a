import EventFeed.Proofs.Broadcast
import EventFeed.Proofs.Notification.Ingest

/-!
# What the center keeps up to date

An action is a change of the log, after which the number of unread records is stored; an event that
makes no notification is no action at all. `Kept` ties the log, the watched number, the broadcast
and the alerts to the actions taken so far. The main result is `center_keeps_up`.
-/

namespace EventFeed.Notification

theorem filterMap_concat {α β : Type} (f : α → Option β) (l : List α) (a : α) :
    (l ++ [a]).filterMap f = l.filterMap f ++ (f a).toList := by
  rw [List.filterMap_append]
  cases h : f a <;> simp [h]

/-- Every type that raises an alert also makes a notification, which the alert needs. -/
theorem isSome_alertOf?_eq (stamp : Stamp) (e : Event) :
    (alertOf? stamp e).isSome = decide (e.type ∈ alerting) := by
  have hall : ∀ type ∈ alerting, isMapped type = true := by decide
  by_cases h : e.type ∈ alerting
  · have hsome : (recordOf? stamp e).isSome = true := by
      rw [isSome_recordOf?_eq]
      exact hall _ h
    simp [alertOf?, h, hsome]
  · simp [alertOf?, h]

namespace Action

/-- What an action does to the log, unless it is an event that makes no notification. -/
def change? : Action → Option (Log → Log)
  | .ingest stamp e => (recordOf? stamp e).map fun r log ↦ (log.push r).1
  | .markRead id => some fun log ↦ (log.markRead id).1
  | .markUnread id => some fun log ↦ (log.markUnread id).1
  | .markAllRead => some fun log ↦ log.markAllRead.1
  | .remove id => some fun log ↦ (log.remove id).1
  | .clear => some Log.clear

def record? : Action → Option Record
  | .ingest stamp e => recordOf? stamp e
  | .markRead _ | .markUnread _ | .markAllRead | .remove _ | .clear => none

def alert? : Action → Option Alert
  | .ingest stamp e => alertOf? stamp e
  | .markRead _ | .markUnread _ | .markAllRead | .remove _ | .clear => none

/-- Whether an action is an event of a type that raises an alert. -/
def raises : Action → Bool
  | .ingest _ e => e.type ∈ alerting
  | .markRead _ | .markUnread _ | .markAllRead | .remove _ | .clear => false

theorem isSome_alert? (a : Action) : a.alert?.isSome = a.raises := by
  cases a with
  | ingest stamp e => exact isSome_alertOf?_eq stamp e
  | _ => rfl

theorem silent_of_no_change {a : Action} (h : a.change? = none) :
    a.record? = none ∧ a.alert? = none := by
  cases a with
  | ingest stamp e =>
      have hnone : recordOf? stamp e = none := Option.map_eq_none_iff.1 h
      constructor
      · exact hnone
      · simp [alert?, alertOf?, hnone]
  | _ => cases h

/-- An event of this type that says no more. -/
def bare (stamp : Stamp) (type : String) : Action := .ingest stamp ⟨"", type, [], ""⟩

end Action

namespace Log

theorem length_modifyFirst (id : String) (f : Record → Record) (records : List Record) :
    (modifyFirst id f records).length = records.length := by
  induction records with
  | nil => rfl
  | cons r records ih =>
      by_cases h : r.id = id
      · simp [modifyFirst, h]
      · simp [modifyFirst, h, ih]

theorem size_push_le {log : Log} (h : log.size ≤ log.capacity) (r : Record) :
    (log.push r).1.size ≤ log.capacity := by
  rw [size, log.records_push r h]
  exact List.length_take_le _ _

/-- No action makes room in a log, and none makes it longer than there is room for. -/
theorem fits_change {a : Action} {f : Log → Log} (hf : a.change? = some f) {log : Log}
    (h : log.size ≤ log.capacity) :
    (f log).capacity = log.capacity ∧ (f log).size ≤ log.capacity := by
  cases a with
  | ingest stamp e =>
      obtain ⟨r, -, rfl⟩ := Option.map_eq_some_iff.1 hf
      exact ⟨log.capacity_push r, size_push_le h r⟩
  | markRead id =>
      cases hf
      refine ⟨rfl, ?_⟩
      simpa [markRead, setRead, size, length_modifyFirst] using h
  | markUnread id =>
      cases hf
      refine ⟨rfl, ?_⟩
      simpa [markUnread, setRead, size, length_modifyFirst] using h
  | markAllRead =>
      cases hf
      simpa [markAllRead_eq, size] using h
  | remove id =>
      cases hf
      exact ⟨rfl, List.length_eraseP_le.trans h⟩
  | clear =>
      cases hf
      exact ⟨rfl, Nat.zero_le _⟩

end Log

namespace Center

section Act

variable {c : Center} {a : Action}

theorem act_of_none (h : a.change? = none) : c.act a = (c, []) := by
  cases a with
  | ingest stamp e =>
      have hnotice : Notice.ofEvent? stamp e = none :=
        Option.map_eq_none_iff.1 (Option.map_eq_none_iff.1 h)
      simp [act, ingest, hnotice]
  | _ => cases h

/-- The log is changed and its unread records are counted; then come the record and the alert. -/
theorem act_of_some {f : Log → Log} (h : a.change? = some f) :
    c.act a =
      ({ log := f c.log
         unread := c.unread.store (f c.log).unread
         records := a.record?.toList.foldl Broadcast.send c.records }, a.alert?.toList) := by
  cases a with
  | ingest stamp e =>
      obtain ⟨r, hr, rfl⟩ := Option.map_eq_some_iff.1 h
      obtain ⟨n, hn, rfl⟩ := Option.map_eq_some_iff.1 hr
      have halert := bind_alert? stamp e
      rw [hn] at halert
      simp only [act, ingest, hn, halert, Action.record?, Action.alert?, hr]
      rfl
  | _ =>
      cases h
      rfl

end Act

/-- A center of this capacity after some actions, one after the other, and its alerts. -/
def run (capacity : Nat) (actions : List Action) : Center × List Alert :=
  actions.foldl (fun x a ↦ ((x.1.act a).1, x.2 ++ (x.1.act a).2)) (empty capacity, [])

section Runs

variable {capacity : Nat} {actions : List Action} {c : Center} {alerts : List Alert}

theorem run_concat (capacity : Nat) (actions : List Action) (a : Action) :
    run capacity (actions ++ [a]) =
      (((run capacity actions).1.act a).1,
        (run capacity actions).2 ++ ((run capacity actions).1.act a).2) := by
  simp [run]

theorem size_records_empty (capacity : Nat) : (empty capacity).records.size = 64 := by
  have hroom : (max 64 1).nextPowerOfTwo = 64 := by decide +kernel
  exact hroom

structure Kept (capacity : Nat) (actions : List Action) (c : Center) (alerts : List Alert) :
    Prop where
  capacity : c.log.capacity = max capacity 1
  size : c.log.size ≤ c.log.capacity
  unread : c.unread.value = c.log.unread
  records : c.records.Holds (actions.filterMap Action.record?)
  room : c.records.size = 64
  alerts : alerts = actions.filterMap Action.alert?

theorem Kept.concat (h : Kept capacity actions c alerts) (a : Action) :
    Kept capacity (actions ++ [a]) (c.act a).1 (alerts ++ (c.act a).2) := by
  have hrecords := filterMap_concat Action.record? actions a
  have halerts := filterMap_concat Action.alert? actions a
  cases hchange : a.change? with
  | none =>
      obtain ⟨hrecord, halert⟩ := Action.silent_of_no_change hchange
      rw [hrecord, Option.toList_none, List.append_nil] at hrecords
      rw [halert, Option.toList_none, List.append_nil] at halerts
      rw [act_of_none hchange, List.append_nil]
      exact ⟨h.capacity, h.size, h.unread, hrecords ▸ h.records, h.room, by rw [halerts, h.alerts]⟩
  | some f =>
      obtain ⟨hcapacity, hsize⟩ := Log.fits_change hchange h.size
      rw [act_of_some hchange]
      refine ⟨hcapacity.trans h.capacity, hsize.trans_eq hcapacity.symm, ?_, ?_, ?_, ?_⟩
      · exact Watch.value_store _ _
      · rw [hrecords]
        exact h.records.foldl_send _
      · exact (Broadcast.size_foldl_send _ _).trans h.room
      · rw [halerts, ← h.alerts]

theorem kept_run (capacity : Nat) (actions : List Action) :
    Kept capacity actions (run capacity actions).1 (run capacity actions).2 := by
  induction actions using List.reverseRecOn with
  | nil => exact ⟨rfl, Nat.zero_le _, rfl, .empty recordBuffer, size_records_empty capacity, rfl⟩
  | append_singleton actions a ih =>
      rw [run_concat]
      exact ih.concat a

/-- The watch changes when an action changes the number that it shows, and at no other time. -/
theorem changes_act (h : c.unread.value = c.log.unread) (a : Action) :
    (c.act a).1.unread.changes =
      if (c.act a).1.log.unread = c.log.unread then c.unread.changes
      else c.unread.changes + 1 := by
  cases hchange : a.change? with
  | none => rw [act_of_none hchange, if_pos rfl]
  | some f =>
      rw [act_of_some hchange, Watch.changes_store, h]
      by_cases hsame : c.log.unread = (f c.log).unread
      · rw [if_pos hsame, if_pos hsame.symm]
      · rw [if_neg hsame, if_neg (Ne.symm hsame)]

/-- After any actions on a center of any capacity: the watch shows how many records of the log are
unread, the log is no longer than it may be, the records of the events that make one were sent, and
nothing else, and each event of a type that alerts has raised its alert. An observer that is no more
than 64 records behind gets the rest in order. The next action changes the watch exactly when it
changes the number of unread records; an event without a rule changes nothing. -/
theorem center_keeps_up (capacity : Nat) (actions : List Action) :
    let c := (run capacity actions).1
    let alerts := (run capacity actions).2
    let records := actions.filterMap Action.record?
    (c.unread.value = c.log.unread ∧
      c.log.unread = (c.log.records.filter fun r ↦ !r.read).length) ∧
    c.log.size ≤ max capacity 1 ∧
    (c.records.Holds records ∧ ∀ position ≤ records.length, records.length ≤ position + 64 →
      c.records.receiveAll position = ((records.drop position).map .message, records.length)) ∧
    (alerts = actions.filterMap Action.alert? ∧ alerts.length = actions.countP Action.raises) ∧
    (∀ a, (run capacity (actions ++ [a])).1.unread.changes =
      if (run capacity (actions ++ [a])).1.log.unread = c.log.unread then c.unread.changes
      else c.unread.changes + 1) ∧
    ∀ stamp e, isMapped e.type = false →
      run capacity (actions ++ [.ingest stamp e]) = run capacity actions := by
  intro c alerts records
  have h : Kept capacity actions c alerts := kept_run capacity actions
  refine ⟨⟨h.unread, ?_⟩, ?_, ⟨h.records, fun position hle hclose ↦ ?_⟩, ⟨h.alerts, ?_⟩, ?_, ?_⟩
  · exact List.countP_eq_length_filter
  · rw [← h.capacity]
    exact h.size
  · have hkept : c.records.oldest ≤ position := by
      have hsent : c.records.sent = records.length := h.records.sent
      rw [Broadcast.oldest, hsent, h.room]
      omega
    exact h.records.receiveAll_of_kept hkept hle
  · rw [h.alerts, List.length_filterMap_eq_countP]
    exact List.countP_congr fun a _ ↦ by rw [a.isSome_alert?]
  · intro a
    rw [run_concat]
    exact changes_act h.unread a
  · intro stamp e hunmapped
    have hnone : (Action.ingest stamp e).change? = none := by
      have hrecord : recordOf? stamp e = none := by
        rw [← Option.not_isSome_iff_eq_none, isSome_recordOf?_eq, hunmapped]
        exact Bool.false_ne_true
      rw [Action.change?, hrecord]
      rfl
    rw [run_concat, act_of_none hnone, List.append_nil]

/-- The second alert takes the place of the first, so that the number shown stays, but an observer
gets the records of both; what has no rule leaves everything as it is. -/
theorem alerts_in_one_place :
    let stamp : Stamp := ⟨"", ⟨2026, 1, 1, 0, 0, 0, 0⟩⟩
    let actions := [Action.bare stamp "system_alert", .markAllRead, .bare stamp "alert_created"]
    (run 0 actions).1.unread = ⟨1, 3⟩ ∧ (run 0 actions).1.log.size = 1 ∧
      (run 0 actions).2.length = 2 ∧
      ((run 0 actions).1.records.receiveAll 0).1.map (fun
        | .message r => r.title
        | _ => "") = ["System Alert", "New Alert"] ∧
      run 0 (actions ++ [.bare stamp "pong"]) = run 0 actions := by
  intro stamp actions
  obtain ⟨-, -, ⟨-, hobserver⟩, ⟨-, halerts⟩, -, hunmapped⟩ := center_keeps_up 0 actions
  have hreceived := hobserver 0 (Nat.zero_le _) (by decide)
  exact ⟨by decide, by decide, halerts, hreceived ▸ by decide, hunmapped _ _ (by decide)⟩

end Runs

end Center

end EventFeed.Notification
