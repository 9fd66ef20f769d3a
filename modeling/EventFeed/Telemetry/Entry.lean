import EventFeed.Telemetry.Level

/-!
# Log entries

What a part of the program reports: how urgent it is, which part reports it, and named fields. The
field named `message` is the sentence that says what happened. A field may be declared and left
without a value; it is then not shown, but an entry is also chosen by the fields it declares.
-/

namespace EventFeed.Telemetry

inductive Value where
  | text (s : String)
  /-- A value of some other kind that was written out as text. -/
  | shown (s : String)
  | int (n : Int)
  | flag (b : Bool)
  deriving DecidableEq

structure Entry where
  level : Level
  target : String
  fields : List (String × Option Value)
  deriving DecidableEq

namespace Entry

/-- An entry whose fields all have a value. -/
def of (level : Level) (target : String) (values : List (String × Value)) : Entry :=
  ⟨level, target, values.map fun f ↦ (f.1, some f.2)⟩

/-- The fields that have a value. -/
def values (e : Entry) : List (String × Value) :=
  e.fields.filterMap fun f ↦ f.2.map (f.1, ·)

def declares (e : Entry) (name : String) : Bool := e.fields.any (·.1 = name)

def warning (target : String) (values : List (String × Value)) (message : String) : Entry :=
  of .warn target (values ++ [("message", .shown message)])

@[simp] theorem values_of (level : Level) (target : String) (values : List (String × Value)) :
    (of level target values).values = values := by
  induction values with
  | nil => rfl
  | cons f rest ih => simp_all [of, Entry.values]

end Entry

end EventFeed.Telemetry
