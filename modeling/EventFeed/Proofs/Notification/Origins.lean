import EventFeed.Proofs.Notification.Newest
import EventFeed.Proofs.Notification.Upkeep
import Mathlib.Data.List.Forall2
import Mathlib.Data.List.Nodup

/-!
# Where the records of a log come from

A `Ledger` is a log with all the records that were ever pushed and, for each record of the log, the
number of its push. A record that is given back takes its number with it. `Ledger.Sound` ties the
numbers to the records after any changes, and `Ledger.Leaves` says which number leaves at a change
and why. The main result is `Ledger.history_kept`.
-/

namespace EventFeed.Notification

section Lists

variable {α β : Type} {R : α → β → Prop} {as : List α} {bs : List β}

theorem forall₂_eraseIdx (h : List.Forall₂ R as bs) (i : Nat) :
    List.Forall₂ R (as.eraseIdx i) (bs.eraseIdx i) := by
  induction h generalizing i with
  | nil => exact .nil
  | cons hab hrest ih =>
      cases i with
      | zero => exact hrest
      | succ i => exact .cons hab (ih i)

theorem mem_eraseIdx_iff {a : α} (h : as.Nodup) (i : Nat) :
    a ∈ as.eraseIdx i ↔ a ∈ as ∧ as[i]? ≠ some a := by
  rw [List.mem_eraseIdx_iff_getElem?]
  constructor
  · rintro ⟨j, hne, hj⟩
    obtain ⟨hlt, -⟩ := List.getElem?_eq_some_iff.1 hj
    exact ⟨List.mem_of_getElem? hj, fun hi ↦ hne ((List.getElem?_inj hlt h).1 (hj.trans hi.symm))⟩
  · rintro ⟨hmem, hi⟩
    obtain ⟨j, hj⟩ := List.mem_iff_getElem?.1 hmem
    refine ⟨j, ?_, hj⟩
    rintro rfl
    exact hi hj

theorem mem_dropLast_iff {a : α} (h : as.Nodup) :
    a ∈ as.dropLast ↔ a ∈ as ∧ as.getLast? ≠ some a := by
  rw [← List.eraseIdx_length_sub_one, mem_eraseIdx_iff h, List.getLast?_eq_getElem?]

theorem forall₂_dropLast (h : List.Forall₂ R as bs) : List.Forall₂ R as.dropLast bs.dropLast := by
  rw [← List.eraseIdx_length_sub_one, ← List.eraseIdx_length_sub_one, h.length_eq]
  exact forall₂_eraseIdx h _

end Lists

namespace Log

/-- What can be asked of a log that is to change it. -/
inductive Change where
  | push (r : Record)
  | markRead (id : String)
  | markUnread (id : String)
  | markAllRead
  | remove (id : String)
  | clear

def Change.pushed? : Change → Option Record
  | .push r => some r
  | .markRead _ | .markUnread _ | .markAllRead | .remove _ | .clear => none

/-- The changed log, and the record that is given back. -/
def change (log : Log) : Change → Log × Option Record
  | .push r => log.push r
  | .markRead id => ((log.markRead id).1, none)
  | .markUnread id => ((log.markUnread id).1, none)
  | .markAllRead => (log.markAllRead.1, none)
  | .remove id => log.remove id
  | .clear => (log.clear, none)

section Changes

variable {log : Log}

theorem push_of_room (h : log.size < log.capacity) (r : Record) :
    log.push r = ({ log with records := r :: log.records }, none) := by
  have hroom : (r :: log.records).length ≤ log.capacity := h
  simp only [push, if_pos hroom]

theorem push_of_full (h : log.size = log.capacity) (hpos : 0 < log.capacity) (r : Record) :
    log.push r =
      ({ log with records := r :: log.records.dropLast }, log.records.getLast?) := by
  have hfull : ¬ (r :: log.records).length ≤ log.capacity := by
    rw [← h]
    exact Nat.not_succ_le_self _
  have hsize : 0 < log.records.length := h.trans_gt hpos
  obtain ⟨q, records, hrecords⟩ := List.exists_cons_of_length_pos hsize
  simp only [push, if_neg hfull]
  rw [hrecords, List.dropLast_cons_cons, List.getLast?_cons_cons]

theorem isSome_push_iff (h : log.size ≤ log.capacity) (hpos : 0 < log.capacity) (r : Record) :
    (log.push r).2.isSome = true ↔ log.size = log.capacity := by
  rcases h.lt_or_eq with hroom | hfull
  · simp [push_of_room hroom, hroom.ne]
  · have hsize : 0 < log.records.length := hfull.trans_gt hpos
    simp [push_of_full hfull hpos, hfull, List.ne_nil_of_length_pos hsize]

theorem capacity_change (log : Log) (c : Change) : (log.change c).1.capacity = log.capacity := by
  cases c with
  | push r => exact log.capacity_push r
  | _ => rfl

theorem size_change_le (h : log.size ≤ log.capacity) (c : Change) :
    (log.change c).1.size ≤ log.capacity := by
  cases c with
  | push r => exact size_push_le h r
  | markRead id => exact (fits_change (a := .markRead id) rfl h).2
  | markUnread id => exact (fits_change (a := .markUnread id) rfl h).2
  | markAllRead => exact (fits_change (a := .markAllRead) rfl h).2
  | remove id => exact (fits_change (a := .remove id) rfl h).2
  | clear => exact (fits_change (a := .clear) rfl h).2

theorem forall₂_modifyFirst {α : Type} {R : α → Record → Prop} {f : Record → Record}
    (hf : ∀ {a r}, R a r → R a (f r)) {as : List α} {records : List Record}
    (h : List.Forall₂ R as records) (id : String) :
    List.Forall₂ R as (modifyFirst id f records) := by
  induction h with
  | nil => exact .nil
  | cons hr hrest ih =>
      rw [modifyFirst]
      split
      · exact .cons (hf hr) hrest
      · exact .cons hr ih

theorem findIdx_of_lacks {id : String} (h : ¬ log.Has id) :
    log.records.findIdx (·.id = id) = log.size := by
  rw [size, List.findIdx_eq_length]
  intro q hq
  exact decide_eq_false fun hid ↦ h ⟨q, hq, hid⟩

theorem Newest.findIdx_eq {id : String} {newer older : List Record} {r : Record}
    (h : log.Newest id newer r older) : log.records.findIdx (·.id = id) = newer.length := by
  have hnewer : newer.findIdx (·.id = id) = newer.length := by
    rw [List.findIdx_eq_length]
    exact fun q hq ↦ decide_eq_false (h.first q hq)
  rw [h.records, List.findIdx_append, hnewer, if_neg (Nat.lt_irrefl _), List.findIdx_cons]
  simp [h.found]

/-- A removal leaves out what stands at the place of the newest record with the id. -/
theorem records_remove (log : Log) (id : String) :
    (log.remove id).1.records = log.records.eraseIdx (log.records.findIdx (·.id = id)) := by
  by_cases hhas : log.Has id
  · obtain ⟨newer, r, older, h⟩ := newest_of_has hhas
    rw [h.remove, h.findIdx_eq, h.records, List.eraseIdx_append_of_length_le le_rfl]
    simp
  · -- The place is then past the end, where there is nothing to leave out.
    rw [remove_of_lacks hhas, findIdx_of_lacks hhas, size, List.eraseIdx_of_length_le le_rfl]

end Changes

end Log

/-- A log, all records that were pushed, and the number of the push of each record of the log. -/
structure Ledger where
  log : Log
  pushed : List Record
  origins : List Nat

namespace Ledger

open Log (Change)

def empty (capacity : Nat) : Ledger := ⟨.empty capacity, [], []⟩

/-- The numbers after a change. -/
def renumbered (l : Ledger) : Change → List Nat
  | .push r => l.pushed.length :: if (l.log.push r).2.isSome then l.origins.dropLast else l.origins
  | .remove id => l.origins.eraseIdx (l.log.records.findIdx (·.id = id))
  | .clear => []
  | .markRead _ | .markUnread _ | .markAllRead => l.origins

def step (l : Ledger) (c : Change) : Ledger where
  log := (l.log.change c).1
  pushed := l.pushed ++ c.pushed?.toList
  origins := l.renumbered c

/-- The ledger of a new log after some changes. -/
def run (capacity : Nat) (changes : List Change) : Ledger := changes.foldl step (empty capacity)

/-- A record is the one of a push, whether it has been read or not. -/
def CameBy (pushed : List Record) (n : Nat) (r : Record) : Prop :=
  ∃ p, pushed[n]? = some p ∧ r = { p with read := r.read }

structure Sound (l : Ledger) : Prop where
  room : 0 < l.log.capacity
  size : l.log.size ≤ l.log.capacity
  order : l.origins.Pairwise (· > ·)
  records : List.Forall₂ (CameBy l.pushed) l.origins l.log.records

/-- The record of a push leaves the log at a change: the oldest one if there is no room for another,
the newest one with an id that is to be removed, and every one when the log is cleared. -/
def Leaves (l : Ledger) (n : Nat) : Change → Prop
  | .push _ => l.log.size = l.log.capacity ∧ l.origins.getLast? = some n
  | .remove id => ∃ newer r older, l.log.Newest id newer r older ∧ l.origins[newer.length]? = some n
  | .clear => n ∈ l.origins
  | .markRead _ | .markUnread _ | .markAllRead => False

/-- The record of a push left at one of the changes. -/
def HasLeft (capacity : Nat) (changes : List Change) (n : Nat) : Prop :=
  ∃ before c, before ++ [c] <+: changes ∧ (run capacity before).Leaves n c

section Steps

variable {l : Ledger} {pushed : List Record} {n : Nat} {r : Record}

theorem CameBy.append (h : CameBy pushed n r) (more : List Record) :
    CameBy (pushed ++ more) n r := by
  obtain ⟨p, hp, hr⟩ := h
  obtain ⟨hlt, -⟩ := List.getElem?_eq_some_iff.1 hp
  exact ⟨p, by rw [List.getElem?_append_left hlt, hp], hr⟩

theorem CameBy.lt (h : CameBy pushed n r) : n < pushed.length := by
  obtain ⟨p, hp, -⟩ := h
  exact (List.getElem?_eq_some_iff.1 hp).1

theorem CameBy.mark (h : CameBy pushed n r) (read : Bool) : CameBy pushed n { r with read } := by
  obtain ⟨p, hp, hr⟩ := h
  refine ⟨p, hp, ?_⟩
  rw [hr]

theorem cameBy_length (pushed : List Record) (r : Record) :
    CameBy (pushed ++ [r]) pushed.length r := ⟨r, by simp, rfl⟩

theorem mem_of_leaves {c : Change} (h : l.Leaves n c) : n ∈ l.origins := by
  cases c with
  | push r => exact List.mem_of_getLast? h.2
  | remove id =>
      obtain ⟨newer, r, older, -, hplace⟩ := h
      exact List.mem_of_getElem? hplace
  | clear => exact h
  | _ => exact h.elim

namespace Sound

variable (h : l.Sound)

include h

theorem length_origins : l.origins.length = l.log.size := h.records.length_eq

theorem nodup : l.origins.Nodup := h.order.imp fun hlt ↦ (ne_of_lt hlt).symm

theorem lt_of_mem (hn : n ∈ l.origins) : n < l.pushed.length := by
  have hlt := h.records.imp fun _ _ hr ↦ And.intro hr.lt hr
  exact ((List.forall₂_and_left _ _).1 hlt).1 n hn

theorem isSome_push_iff (r : Record) :
    (l.log.push r).2.isSome = true ↔ l.log.size = l.log.capacity :=
  Log.isSome_push_iff h.size h.room r

theorem renumbered_of_room (hroom : l.log.size < l.log.capacity) (r : Record) :
    l.renumbered (.push r) = l.pushed.length :: l.origins := by
  have hnone : ¬ (l.log.push r).2.isSome = true := (h.isSome_push_iff r).not.2 hroom.ne
  rw [renumbered, if_neg hnone]

theorem renumbered_of_full (hfull : l.log.size = l.log.capacity) (r : Record) :
    l.renumbered (.push r) = l.pushed.length :: l.origins.dropLast := by
  rw [renumbered, if_pos ((h.isSome_push_iff r).2 hfull)]

theorem order_step (c : Change) : (l.renumbered c).Pairwise (· > ·) := by
  cases c with
  | push r =>
      have hlt : ∀ n ∈ l.origins, l.pushed.length > n := fun n hn ↦ h.lt_of_mem hn
      rcases h.size.lt_or_eq with hroom | hfull
      · rw [h.renumbered_of_room hroom]
        exact h.order.cons hlt
      · have hsublist := l.origins.dropLast_sublist
        rw [h.renumbered_of_full hfull]
        exact (h.order.sublist hsublist).cons fun n hn ↦ hlt n (hsublist.subset hn)
  | remove id => exact h.order.sublist (List.eraseIdx_sublist _ _)
  | clear => exact .nil
  | _ => exact h.order

theorem records_step (c : Change) :
    List.Forall₂ (CameBy (l.step c).pushed) (l.renumbered c) (l.log.change c).1.records := by
  have hkept : List.Forall₂ (CameBy (l.step c).pushed) l.origins l.log.records :=
    h.records.imp fun _ _ hr ↦ hr.append _
  cases c with
  | push r =>
      have hnew : CameBy (l.step (.push r)).pushed l.pushed.length r := cameBy_length l.pushed r
      rcases h.size.lt_or_eq with hroom | hfull
      · rw [h.renumbered_of_room hroom, Log.change, Log.push_of_room hroom]
        exact .cons hnew hkept
      · rw [h.renumbered_of_full hfull, Log.change, Log.push_of_full hfull h.room]
        exact .cons hnew (forall₂_dropLast hkept)
  | markRead id => exact Log.forall₂_modifyFirst (fun hr ↦ hr.mark true) hkept id
  | markUnread id => exact Log.forall₂_modifyFirst (fun hr ↦ hr.mark false) hkept id
  | markAllRead =>
      rw [Log.change, Log.markAllRead_eq]
      exact List.forall₂_map_right_iff.2 (hkept.imp fun _ _ hr ↦ hr.mark true)
  | remove id =>
      rw [renumbered, Log.change, Log.records_remove]
      exact forall₂_eraseIdx hkept _
  | clear => exact .nil

theorem step (c : Change) : (l.step c).Sound where
  room := (l.log.capacity_change c).symm ▸ h.room
  size := (Log.size_change_le h.size c).trans_eq (l.log.capacity_change c).symm
  order := h.order_step c
  records := h.records_step c

theorem leaves_remove_iff {id : String} :
    l.Leaves n (.remove id) ↔ l.origins[l.log.records.findIdx (·.id = id)]? = some n := by
  constructor
  · rintro ⟨newer, r, older, hnewest, hplace⟩
    rw [hnewest.findIdx_eq, hplace]
  · intro hplace
    by_cases hhas : l.log.Has id
    · obtain ⟨newer, r, older, hnewest⟩ := Log.newest_of_has hhas
      exact ⟨newer, r, older, hnewest, hnewest.findIdx_eq ▸ hplace⟩
    · rw [Log.findIdx_of_lacks hhas, ← h.length_origins, List.getElem?_length] at hplace
      cases hplace

/-- A push adds its number, and the numbers that leave are gone. -/
theorem mem_renumbered_iff (c : Change) :
    n ∈ l.renumbered c ↔
      (n ∈ l.origins ∨ c.pushed?.isSome = true ∧ n = l.pushed.length) ∧ ¬ l.Leaves n c := by
  cases c with
  | push r =>
      have hold : n ∈ l.origins → n ≠ l.pushed.length := fun hn ↦ (h.lt_of_mem hn).ne
      rcases h.size.lt_or_eq with hroom | hfull
      · simp [h.renumbered_of_room hroom, hroom.ne, Leaves, Change.pushed?, or_comm]
      · have hlast : l.origins.getLast? = some n → n ∈ l.origins := List.mem_of_getLast?
        rw [h.renumbered_of_full hfull, List.mem_cons, mem_dropLast_iff h.nodup]
        simp only [Leaves, Change.pushed?, hfull, Option.isSome_some, true_and]
        tauto
  | remove id =>
      rw [h.leaves_remove_iff, renumbered, mem_eraseIdx_iff h.nodup]
      simp [Change.pushed?]
  | clear => simp [renumbered, Leaves, Change.pushed?]
  | _ => simp [renumbered, Leaves, Change.pushed?]

end Sound

end Steps

section Runs

variable {capacity : Nat} {changes : List Change} {c : Change} {n : Nat}

theorem run_concat (capacity : Nat) (changes : List Change) (c : Change) :
    run capacity (changes ++ [c]) = (run capacity changes).step c := by
  simp [run]

theorem log_run (capacity : Nat) (changes : List Change) :
    (run capacity changes).log =
      changes.foldl (fun log c ↦ (log.change c).1) (.empty capacity) := by
  induction changes using List.reverseRecOn with
  | nil => rfl
  | append_singleton changes c ih => rw [run_concat, List.foldl_append, ← ih]; rfl

theorem pushed_run (capacity : Nat) (changes : List Change) :
    (run capacity changes).pushed = changes.filterMap Change.pushed? := by
  induction changes using List.reverseRecOn with
  | nil => rfl
  | append_singleton changes c ih => rw [run_concat, filterMap_concat, ← ih]; rfl

theorem capacity_run (capacity : Nat) (changes : List Change) :
    (run capacity changes).log.capacity = max capacity 1 := by
  induction changes using List.reverseRecOn with
  | nil => rfl
  | append_singleton changes c ih => rw [run_concat, step, Log.capacity_change, ih]

theorem sound_run (capacity : Nat) (changes : List Change) : (run capacity changes).Sound := by
  induction changes using List.reverseRecOn with
  | nil => exact ⟨Nat.lt_of_lt_of_le Nat.one_pos (Nat.le_max_right _ _), Nat.zero_le _, .nil, .nil⟩
  | append_singleton changes c ih =>
      rw [run_concat]
      exact ih.step c

theorem hasLeft_concat_iff :
    HasLeft capacity (changes ++ [c]) n ↔
      HasLeft capacity changes n ∨ (run capacity changes).Leaves n c := by
  constructor
  · rintro ⟨before, d, hprefix, hleaves⟩
    rcases List.prefix_concat_iff.1 hprefix with heq | hprefix
    · obtain ⟨rfl, hd⟩ := List.append_inj' heq rfl
      cases hd
      exact Or.inr hleaves
    · exact Or.inl ⟨before, d, hprefix, hleaves⟩
  · rintro (⟨before, d, hprefix, hleaves⟩ | hleaves)
    · exact ⟨before, d, hprefix.trans (List.prefix_append _ _), hleaves⟩
    · exact ⟨changes, c, List.prefix_rfl, hleaves⟩

theorem lt_of_hasLeft (h : HasLeft capacity changes n) :
    n < (run capacity changes).pushed.length := by
  obtain ⟨before, c, hprefix, hleaves⟩ := h
  have hlt := (sound_run capacity before).lt_of_mem (mem_of_leaves hleaves)
  have hprefix' := (List.prefix_append before [c]).trans hprefix
  rw [pushed_run] at hlt ⊢
  exact hlt.trans_le (hprefix'.filterMap Change.pushed?).length_le

theorem lt_length_pushed_step (l : Ledger) (c : Change) :
    n < (l.step c).pushed.length ↔
      n < l.pushed.length ∨ c.pushed?.isSome = true ∧ n = l.pushed.length := by
  cases h : c.pushed? with
  | none => simp [step, h]
  | some r =>
    rw [step, h, Option.toList_some, List.length_append, List.length_singleton,
      Nat.lt_succ_iff_lt_or_eq]
    simp

/-- A record that was pushed is in the log as long as it has not left. -/
theorem mem_origins_run_iff :
    n ∈ (run capacity changes).origins ↔
      n < (run capacity changes).pushed.length ∧ ¬ HasLeft capacity changes n := by
  induction changes using List.reverseRecOn with
  | nil => simp [run, empty]
  | append_singleton changes c ih =>
      -- The number of a push that is still to come cannot have left.
      have hnew : n = (run capacity changes).pushed.length → ¬ HasLeft capacity changes n :=
        fun hn hleft ↦ (lt_of_hasLeft hleft).ne hn
      have hstep := (sound_run capacity changes).mem_renumbered_iff (n := n) c
      rw [hasLeft_concat_iff, run_concat, lt_length_pushed_step]
      refine hstep.trans ?_
      rw [ih]
      tauto

/-- After any changes of a new log of any capacity: it is no longer than it may be. Its records are
those of different pushes, the latest first, as they were pushed but for having been read. A push
gives a record back exactly if the log was full, and then the oldest one. And a record that was
pushed is still there unless it left at one of the changes in this way, or was removed, or the log
was cleared. -/
theorem history_kept (capacity : Nat) (changes : List Change) :
    let l := run capacity changes
    (l.log = changes.foldl (fun log c ↦ (log.change c).1) (.empty capacity) ∧
      l.pushed = changes.filterMap Change.pushed?) ∧
    l.log.size ≤ max capacity 1 ∧
    (l.origins.Pairwise (· > ·) ∧ List.Forall₂ (CameBy l.pushed) l.origins l.log.records) ∧
    (∀ r, ((l.log.push r).2.isSome = true ↔ l.log.size = max capacity 1) ∧
      ∀ old, (l.log.push r).2 = some old → l.log.records.getLast? = some old) ∧
    ∀ n, n ∈ l.origins ↔ n < l.pushed.length ∧ ¬ HasLeft capacity changes n := by
  intro l
  have h : l.Sound := sound_run capacity changes
  have hcapacity : l.log.capacity = max capacity 1 := capacity_run capacity changes
  refine ⟨⟨log_run capacity changes, pushed_run capacity changes⟩, hcapacity ▸ h.size,
    ⟨h.order, h.records⟩, fun r ↦ ?_, fun n ↦ mem_origins_run_iff⟩
  have hsome := h.isSome_push_iff r
  refine ⟨hcapacity ▸ hsome, fun old hold ↦ ?_⟩
  have hfull : l.log.size = l.log.capacity := hsome.1 (by rw [hold]; rfl)
  rw [Log.push_of_full hfull h.room] at hold
  exact hold

/-- Of two equal records the later one is removed; the other one is evicted two pushes later. -/
example :
    let r : Record := ⟨"a", "", "", .info, "", false, none⟩
    (run 2 [.push r, .push r, .remove "a", .push r, .push r]).origins = [3, 2] := by
  decide

end Runs

end Ledger

end EventFeed.Notification
