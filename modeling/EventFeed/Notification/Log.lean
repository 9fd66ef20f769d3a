import EventFeed.Notification.Record

/-!
# The notification log

The newest notifications, newest first, up to the capacity of the log. Ids may repeat, as a server
may send an event again; an operation on an id then takes the newest record that has it.
-/

namespace EventFeed.Notification

structure Log where
  capacity : Nat
  /-- The newest first. -/
  records : List Record
  deriving DecidableEq

namespace Log

/-- There is room for at least one record. -/
def empty (capacity : Nat) : Log := ⟨max capacity 1, []⟩

def defaultCapacity : Nat := 100

def size (log : Log) : Nat := log.records.length

def isEmpty (log : Log) : Bool := log.records.isEmpty

def unread (log : Log) : Nat := log.records.countP fun r ↦ !r.read

/-- The log with one more record, and the oldest one if there was no room for it. -/
def push (log : Log) (r : Record) : Log × Option Record :=
  let records := r :: log.records
  if records.length ≤ log.capacity then ({ log with records }, none)
  else ({ log with records := records.dropLast }, records.getLast?)

def get? (log : Log) (id : String) : Option Record := log.records.find? (·.id = id)

/-- Changes the first record with the id. -/
def modifyFirst (id : String) (f : Record → Record) : List Record → List Record
  | [] => []
  | r :: rs => if r.id = id then f r :: rs else r :: modifyFirst id f rs

/-- The second part says whether there was such a record. -/
def setRead (log : Log) (id : String) (read : Bool) : Log × Bool :=
  ({ log with records := modifyFirst id (fun r ↦ { r with read }) log.records },
    (log.get? id).isSome)

def markRead (log : Log) (id : String) : Log × Bool := log.setRead id true

def markUnread (log : Log) (id : String) : Log × Bool := log.setRead id false

/-- The unread ones of some records are marked as read and counted. -/
def readAll : List Record → List Record × Nat
  | [] => ([], 0)
  | r :: rs =>
    let (rs, changed) := readAll rs
    if r.read then (r :: rs, changed) else ({ r with read := true } :: rs, changed + 1)

/-- The second part is how many records changed. -/
def markAllRead (log : Log) : Log × Nat :=
  let (records, changed) := readAll log.records
  ({ log with records }, changed)

def remove (log : Log) (id : String) : Log × Option Record :=
  ({ log with records := log.records.eraseP (·.id = id) }, log.get? id)

def clear (log : Log) : Log := { log with records := [] }

/-- All records are read afterwards, and those that were unread have changed. -/
theorem readAll_eq (records : List Record) : readAll records =
    (records.map fun r ↦ { r with read := true }, records.countP fun r ↦ !r.read) := by
  induction records with
  | nil => rfl
  | cons r records ih =>
      rw [readAll, ih]
      cases hread : r.read with
      | true =>
          have hsame : { r with read := true } = r := by rw [← hread]
          simp [hread, hsame]
      | false => simp [hread]

theorem markAllRead_eq (log : Log) : log.markAllRead =
    ({ log with records := log.records.map fun r ↦ { r with read := true } }, log.unread) := by
  rw [markAllRead, readAll_eq]
  rfl

end Log

end EventFeed.Notification
