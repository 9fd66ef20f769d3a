/-!
# Instants

A moment of the calendar in Coordinated Universal Time, and its RFC 3339 text. The fraction of a
second has no digits, or three, six or nine, whichever is the least that shows it exactly. Instants
are compared field by field, from the year down.
-/

namespace EventFeed.Time

structure Instant where
  year : Fin 10000
  month : Fin 13
  day : Fin 32
  hour : Fin 24
  minute : Fin 60
  second : Fin 61
  nanos : Fin 1000000000
  deriving DecidableEq

namespace Instant

/-- The fields from the largest unit to the smallest. -/
def fields (t : Instant) : List Nat :=
  [t.year, t.month, t.day, t.hour, t.minute, t.second, t.nanos]

def Before (s t : Instant) : Prop := s.fields < t.fields

instance (s t : Instant) : Decidable (Before s t) :=
  inferInstanceAs (Decidable (s.fields < t.fields))

/-- `n` in exactly `width` digits. -/
def padded : (width : Nat) → Nat → List Char
  | 0, _ => []
  | width + 1, n => padded width (n / 10) ++ [Nat.digitChar (n % 10)]

def fraction (nanos : Nat) : List Char :=
  if nanos = 0 then []
  else if nanos % 1000000 = 0 then '.' :: padded 3 (nanos / 1000000)
  else if nanos % 1000 = 0 then '.' :: padded 6 (nanos / 1000)
  else '.' :: padded 9 nanos

/-- Date, time of day and fraction, without the offset. -/
def clock (t : Instant) : List Char :=
  padded 4 t.year ++ '-' :: padded 2 t.month ++ '-' :: padded 2 t.day ++ 'T' :: padded 2 t.hour ++
    ':' :: padded 2 t.minute ++ ':' :: padded 2 t.second ++ fraction t.nanos

def text (t : Instant) : String := String.ofList (t.clock ++ ['+', '0', '0', ':', '0', '0'])

end Instant

end EventFeed.Time
