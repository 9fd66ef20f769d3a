/-!
# Broadcasts

A channel that hands every message to every receiver. It keeps the last messages up to its size, a
power of two; a receiver is a position in the sequence of all messages, and one that has fallen
behind what is kept learns how many messages it has lost and goes on with the oldest one kept.
-/

namespace EventFeed

structure Broadcast (α : Type) where
  size : Nat
  /-- How many messages were sent in all. -/
  sent : Nat
  /-- The last of them, the newest first. -/
  kept : List α
  deriving DecidableEq

namespace Broadcast

/-- Room for at least `capacity` messages. -/
def empty (capacity : Nat) : Broadcast α := ⟨(max capacity 1).nextPowerOfTwo, 0, []⟩

def send (b : Broadcast α) (a : α) : Broadcast α :=
  { b with sent := b.sent + 1, kept := (a :: b.kept).take b.size }

/-- The position of the oldest message that is kept. -/
def oldest (b : Broadcast α) : Nat := b.sent - b.size

/-- The messages from a position on, the oldest first, as far as they are kept. -/
def since (b : Broadcast α) (position : Nat) : List α := (b.kept.take (b.sent - position)).reverse

/-- What a receiver at some position gets. -/
inductive Received (α : Type) where
  | message (a : α)
  /-- That many messages are lost. -/
  | lagged (count : Nat)
  | nothing
  deriving DecidableEq

/-- What is received at a position, and the position after it. -/
def receive (b : Broadcast α) (position : Nat) : Received α × Nat :=
  if position < b.oldest then (.lagged (b.oldest - position), b.oldest)
  else
    match b.since position with
    | [] => (.nothing, position)
    | a :: _ => (.message a, position + 1)

/-- All that is received from a position on. -/
def receiveAll (b : Broadcast α) (position : Nat) : List (Received α) × Nat :=
  let lost := b.oldest - position
  let messages := (b.since (max position b.oldest)).map .message
  (if lost = 0 then messages else .lagged lost :: messages, max position b.sent)

@[simp] theorem size_send (b : Broadcast α) (a : α) : (b.send a).size = b.size := rfl

@[simp] theorem sent_send (b : Broadcast α) (a : α) : (b.send a).sent = b.sent + 1 := rfl

end Broadcast

end EventFeed
