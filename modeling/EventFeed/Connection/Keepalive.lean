import EventFeed.Time.Duration

/-!
# Keepalive

The timer of the pings. It starts one full period before its first tick, and a period of zero
turns it off. A tick that is taken more than five milliseconds late moves the ones after it; any
other tick does not. All times are in milliseconds.
-/

namespace EventFeed.Connection

structure Keepalive where
  period : Time.Duration
  /-- When the next tick is due, while the timer runs. -/
  next : Option Nat
  deriving DecidableEq

namespace Keepalive

def ofDuration (period : Time.Duration) : Keepalive := ⟨period, none⟩

def ofPeriod (millis : Nat) : Keepalive := .ofDuration (.ofMillis millis)

def isRunning (k : Keepalive) : Bool := k.next.isSome

def start (k : Keepalive) (now : Nat) : Keepalive :=
  if k.period.nanos = 0 then k else { k with next := some (now + k.period.ceilMillis) }

def stop (k : Keepalive) : Keepalive := { k with next := none }

def isDue (k : Keepalive) (now : Nat) : Bool := k.next.any (· ≤ now)

/-- How late a tick may be taken and still count as taken in time. -/
def tolerance : Nat := 5

/-- Takes the tick that is due. -/
def tick (k : Keepalive) (now : Nat) : Keepalive :=
  { k with
    next := k.next.map fun due ↦
      (if due + tolerance < now then now else due) + k.period.ceilMillis }

/-- Waits for a tick until the time `limit`, which is not before `now`: whether it came, and the
time then. -/
def await (k : Keepalive) (now limit : Nat) : Keepalive × Bool × Nat :=
  match k.next with
  | none => (k, false, limit)
  | some due =>
    let time := max now due
    if time ≤ limit then (k.tick time, true, time) else (k, false, limit)

@[simp] theorem next_stop (k : Keepalive) : k.stop.next = none := rfl

theorem stop_eq_self {k : Keepalive} (h : k.isRunning = false) : k.stop = k := by
  have hnext : k.next = none := by simpa [isRunning] using h
  simp [stop, ← hnext]

theorem isRunning_of_isDue {k : Keepalive} {now : Nat} (h : k.isDue now = true) :
    k.isRunning = true := by
  cases hn : k.next <;> simp_all [isDue, isRunning]

@[simp] theorem isRunning_tick (k : Keepalive) (now : Nat) :
    (k.tick now).isRunning = k.isRunning := by
  simp [isRunning, tick]

theorem isRunning_start (k : Keepalive) (now : Nat) :
    (k.start now).isRunning = true ↔ k.isRunning = true ∨ k.period.nanos ≠ 0 := by
  by_cases h : k.period.nanos = 0 <;> simp [start, h, isRunning]

@[simp] theorem period_stop (k : Keepalive) : k.stop.period = k.period := rfl

@[simp] theorem period_start (k : Keepalive) (now : Nat) : (k.start now).period = k.period := by
  simp only [start]
  split <;> rfl

end Keepalive

end EventFeed.Connection
