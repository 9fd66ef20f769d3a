import EventFeed.Notification.Center
import EventFeed.Proofs.Broadcast
import EventFeed.Proofs.Routing.Selection
import Mathlib.Data.List.Induction

/-!
# What events leave behind

The records and the alerts of a sequence of events, each taken with a stamp of its own. A log that
takes records one by one has the latest of them, as many as there is room for.
-/

namespace EventFeed.Notification

open Routing (Category)

def isSorted (e : Event) : Bool := (Category.of? e.type).isSome

/-- The types of events that raise an alert. -/
def alerting : List String :=
  ["workflow_failed", "approval_required", "notification", "system_alert", "alert_created",
    "detection_hit"]

def Record.alert (r : Record) : Alert := ⟨r.title, r.body, r.severity⟩

def recordOf? (stamp : Stamp) (e : Event) : Option Record :=
  (Notice.ofEvent? stamp e).map (·.record)

def alertOf? (stamp : Stamp) (e : Event) : Option Alert :=
  if e.type ∈ alerting then (recordOf? stamp e).map Record.alert else none

def recordsOf (stamp : Nat → Stamp) (events : List Event) : List Record :=
  events.zipIdx.filterMap fun x ↦ recordOf? (stamp x.2) x.1

def alertsOf (stamp : Nat → Stamp) (events : List Event) : List Alert :=
  events.zipIdx.filterMap fun x ↦ alertOf? (stamp x.2) x.1

section Events

variable (stamp : Nat → Stamp) (events : List Event) (e : Event)

theorem recordsOf_concat :
    recordsOf stamp (events ++ [e]) =
      recordsOf stamp events ++ (recordOf? (stamp events.length) e).toList := by
  rw [recordsOf, List.zipIdx_append, List.filterMap_append, recordsOf]
  cases h : recordOf? (stamp events.length) e <;> simp [h]

theorem alertsOf_concat :
    alertsOf stamp (events ++ [e]) =
      alertsOf stamp events ++ (alertOf? (stamp events.length) e).toList := by
  rw [alertsOf, List.zipIdx_append, List.filterMap_append, alertsOf]
  cases h : alertOf? (stamp events.length) e <;> simp [h]

end Events

/-! ## Rules -/

theorem Rule.of?_eq_some {type : String} {rule : Rule} (h : Rule.of? type = some rule) :
    rule ∈ Rule.all ∧ rule.type = type :=
  ⟨List.mem_of_find?_eq_some h, by simpa using List.find?_some h⟩

theorem Rule.alerts_iff {rule : Rule} (h : rule ∈ Rule.all) :
    rule.alerts = true ↔ rule.type ∈ alerting := by
  have hall : ∀ rule ∈ Rule.all, (rule.alerts = true ↔ rule.type ∈ alerting) := by decide
  exact hall rule h

/-- An alert is raised for the types that it is meant for, and says what the record says. -/
theorem bind_alert? (stamp : Stamp) (e : Event) :
    (Notice.ofEvent? stamp e).bind (·.alert?) = alertOf? stamp e := by
  cases hrule : Rule.of? e.type with
  | none => simp [Notice.ofEvent?, alertOf?, recordOf?, hrule]
  | some rule =>
      obtain ⟨hmem, htype⟩ := Rule.of?_eq_some hrule
      have halerts := Rule.alerts_iff hmem
      rw [htype] at halerts
      by_cases h : e.type ∈ alerting
      · simp [Notice.ofEvent?, alertOf?, recordOf?, hrule, h, halerts.2 h, Notice.alert?,
          Record.alert]
      · have hquiet : rule.alerts = false := by simpa [h] using halerts
        simp [Notice.ofEvent?, alertOf?, hrule, h, hquiet, Notice.alert?]

theorem isSome_ofEvent?_eq (stamp : Stamp) (e : Event) :
    (Notice.ofEvent? stamp e).isSome = isMapped e.type := by
  rw [Notice.ofEvent?, Option.isSome_map, isMapped]

theorem isSome_recordOf?_eq (stamp : Stamp) (e : Event) :
    (recordOf? stamp e).isSome = isMapped e.type := by
  rw [recordOf?, Option.isSome_map, isSome_ofEvent?_eq]

/-- The rules are for the types of the categories, and come in the same order. -/
theorem Rule.map_type_all : Rule.all.map Rule.type = Category.all.flatMap Category.types := rfl

theorem isMapped_iff {type : String} :
    isMapped type = true ↔ ∃ c, Category.of? type = some c := by
  rw [Category.exists_of?_eq_some_iff, ← Rule.map_type_all, isMapped, Rule.of?, List.find?_isSome,
    List.mem_map]
  simp only [decide_eq_true_eq]

theorem isSorted_eq_isMapped (e : Event) : isSorted e = isMapped e.type := by
  rw [Bool.eq_iff_iff, isMapped_iff, isSorted, Option.isSome_iff_exists]

theorem isSome_recordOf? {e : Event} (h : isSorted e = true) (stamp : Stamp) :
    (recordOf? stamp e).isSome = true := by
  rw [isSome_recordOf?_eq, ← isSorted_eq_isMapped, h]

theorem length_recordsOf {events : List Event} (h : ∀ e ∈ events, isSorted e = true)
    (stamp : Nat → Stamp) : (recordsOf stamp events).length = events.length := by
  induction events using List.reverseRecOn with
  | nil => rfl
  | append_singleton events e ih =>
      have hlast := isSome_recordOf? (h e (by simp)) (stamp events.length)
      obtain ⟨r, hr⟩ := Option.isSome_iff_exists.1 hlast
      rw [recordsOf_concat, List.length_append, ih fun x hx ↦ h x (by simp [hx]), hr]
      simp

/-! ## The log -/

namespace Log

variable (log : Log) (r : Record)

@[simp] theorem capacity_push : (log.push r).1.capacity = log.capacity := by
  simp only [push]
  split <;> rfl

theorem records_push (h : log.records.length ≤ log.capacity) :
    (log.push r).1.records = (r :: log.records).take log.capacity := by
  by_cases hroom : (r :: log.records).length ≤ log.capacity
  · rw [push, if_pos hroom, List.take_of_length_le hroom]
  · have hfull : (r :: log.records).length - 1 = log.capacity := by
      rw [List.length_cons] at hroom ⊢
      omega
    rw [push, if_neg hroom, List.dropLast_eq_take, hfull]

/-- A log that has the latest of some records has the latest of one more. -/
theorem records_push_of_take {all : List Record}
    (h : log.records = all.reverse.take log.capacity) :
    (log.push r).1.records = (all ++ [r]).reverse.take log.capacity := by
  have hle : log.records.length ≤ log.capacity := by
    rw [h]
    exact List.length_take_le _ _
  rw [log.records_push r hle, h, List.reverse_concat, take_cons_take]

end Log

namespace Center

variable (c : Center) (stamp : Stamp) (e : Event)

theorem ingest_snd : (c.ingest stamp e).2 = Notice.ofEvent? stamp e := by
  rw [ingest]
  cases Notice.ofEvent? stamp e <;> rfl

theorem log_ingest_of_some {r : Record} (h : recordOf? stamp e = some r) :
    (c.ingest stamp e).1.log = (c.log.push r).1 := by
  obtain ⟨n, hn, rfl⟩ := Option.map_eq_some_iff.1 h
  rw [ingest, hn]
  rfl

theorem log_ingest_of_none (h : recordOf? stamp e = none) :
    (c.ingest stamp e).1.log = c.log := by
  rw [ingest, Option.map_eq_none_iff.1 h]

end Center

end EventFeed.Notification
