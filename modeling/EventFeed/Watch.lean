/-!
# Watched values

A value of which only the latest matters, and how often it has changed. An observer who remembers
that number can tell whether there was a change since.
-/

namespace EventFeed

structure Watch (α : Type) where
  value : α
  changes : Nat
  deriving DecidableEq

namespace Watch

def initial (a : α) : Watch α := ⟨a, 0⟩

/-- Storing the value that is there already is no change. -/
def store [DecidableEq α] (w : Watch α) (a : α) : Watch α :=
  if w.value = a then w else ⟨a, w.changes + 1⟩

variable [DecidableEq α]

@[simp] theorem value_store (w : Watch α) (a : α) : (w.store a).value = a := by
  simp only [store]
  split
  · assumption
  · rfl

theorem changes_store (w : Watch α) (a : α) :
    (w.store a).changes = if w.value = a then w.changes else w.changes + 1 := by
  simp only [store]
  split <;> rfl

end Watch

end EventFeed
