import EventFeed.Time.Duration

/-!
# Backoff

How often a lost connection is tried again, and how long the client waits before each try. The
wait doubles from one try to the next until it no longer fits 64 bits of milliseconds.
-/

namespace EventFeed.Connection

structure Backoff where
  maxAttempts : Nat
  baseDelay : Time.Duration
  deriving DecidableEq

namespace Backoff

def longest : Nat := UInt64.size - 1

def default : Backoff := ⟨5, .ofMillis 1000⟩

/-- Whether one more try may follow after `made` of them. -/
def allows (b : Backoff) (made : Nat) : Bool := made < b.maxAttempts

def baseMillis (b : Backoff) : Nat := min b.baseDelay.millis longest

/-- The wait before the given try, which is counted from one, in milliseconds. -/
def delayMillis (b : Backoff) (attempt : Nat) : Nat :=
  min (b.baseMillis * Nat.pow 2 (min (attempt - 1) 31)) longest

end Backoff

end EventFeed.Connection
