import EventFeed.Frame.Event
import EventFeed.Routing.Category

/-!
# Filters

Which events a consumer wants: those of some categories and those of some types, or all events if
it names neither, and of these only the events about one subject if it names one.
-/

namespace EventFeed.Routing

structure Filter where
  categories : List Category
  types : List String
  /-- A field of the data and what must stand there. -/
  subject : Option (String × String)
  deriving DecidableEq

namespace Filter

def all : Filter := ⟨[], [], none⟩

def withCategory (f : Filter) (c : Category) : Filter :=
  { f with categories := f.categories.insert c }

def withType (f : Filter) (type : String) : Filter := { f with types := f.types.insert type }

/-- The last subject that was named counts. -/
def about (f : Filter) (key value : String) : Filter := { f with subject := some (key, value) }

def selects (f : Filter) (category : Option Category) (type : String) : Bool :=
  (f.categories.isEmpty && f.types.isEmpty) || category.any f.categories.contains ||
    f.types.contains type

def keeps (f : Filter) (category : Option Category) (e : Event) : Bool :=
  f.selects category e.type && f.subject.all fun s ↦ e.correlates s.1 s.2

end Filter

end EventFeed.Routing
