import EventFeed.Broadcast
import EventFeed.Notification.Alert
import EventFeed.Notification.Log
import EventFeed.Routing.Router
import EventFeed.Watch

/-!
# The notification center

Keeps the log of notifications, tells how many are unread, hands out new records, and raises
alerts. An operation changes the log first and then stores the new number of unread records.
-/

namespace EventFeed.Notification

structure Center where
  log : Log
  unread : Watch Nat
  records : Broadcast Record
  deriving DecidableEq

/-- What can be asked of a center. An event comes with the stamp that it may need. -/
inductive Action where
  | ingest (stamp : Stamp) (event : Event)
  | markRead (id : String)
  | markUnread (id : String)
  | markAllRead
  | remove (id : String)
  | clear

namespace Center

/-- How many records a slow observer may be behind. -/
def recordBuffer : Nat := 64

def empty (capacity : Nat) : Center := ⟨.empty capacity, .initial 0, .empty recordBuffer⟩

/-- The events that the center wants: those of all categories, and the type `notification`. -/
def interest : Routing.Filter :=
  Routing.Category.all.foldl Routing.Filter.withCategory (.ofType "notification")

/-- Stores a number of unread records. -/
def post (c : Center) (count : Nat) : Center := { c with unread := c.unread.store count }

/-- Puts a changed log in place, then stores its number of unread records. -/
def update (c : Center) (log : Log) : Center := { c with log }.post log.unread

/-- Logs an event that is worth it. -/
def ingest (c : Center) (stamp : Stamp) (e : Event) : Center × Option Notice :=
  match Notice.ofEvent? stamp e with
  | none => (c, none)
  | some n =>
    let c := c.update (c.log.push n.record).1
    ({ c with records := c.records.send n.record }, some n)

def markRead (c : Center) (id : String) : Center × Bool :=
  let (log, found) := c.log.markRead id
  (c.update log, found)

def markUnread (c : Center) (id : String) : Center × Bool :=
  let (log, found) := c.log.markUnread id
  (c.update log, found)

def markAllRead (c : Center) : Center × Nat :=
  let (log, count) := c.log.markAllRead
  (c.update log, count)

def remove (c : Center) (id : String) : Center × Option Record :=
  let (log, removed) := c.log.remove id
  (c.update log, removed)

def clear (c : Center) : Center := c.update c.log.clear

/-- An action and the alerts that it raises. -/
def act (c : Center) : Action → Center × List Alert
  | .ingest stamp e =>
    let (c, notice) := c.ingest stamp e
    (c, (notice.bind (·.alert?)).toList)
  | .markRead id => ((c.markRead id).1, [])
  | .markUnread id => ((c.markUnread id).1, [])
  | .markAllRead => (c.markAllRead.1, [])
  | .remove id => ((c.remove id).1, [])
  | .clear => (c.clear, [])

end Center

end EventFeed.Notification
