import EventFeed.Broadcast
import EventFeed.Routing.Filter
import EventFeed.Telemetry.Entry

/-!
# The router

Every event that is published goes to every subscription, whose filter then says whether the
consumer wants it. An event is sorted into its category when it is published. A subscription that
falls behind reports how many events it lost, wanted or not.
-/

namespace EventFeed.Routing

structure Routed where
  category : Option Category
  event : Event

def Routed.ofEvent (e : Event) : Routed := ⟨Category.of? e.type, e⟩

structure Router where
  channel : Broadcast Routed
  /-- How many subscriptions there are. -/
  subscribers : Nat

/-- A filter and the place in the sequence of all events. -/
structure Subscription where
  filter : Filter
  position : Nat

namespace Filter

def ofCategory (c : Category) : Filter := all.withCategory c

/-- The events of a category, about one subject if it is given and the category has subjects. -/
def ofSubject (c : Category) (id : Option String) : Filter :=
  match id, c.subjectKey? with
  | some id, some key => (ofCategory c).about key id
  | _, _ => ofCategory c

def ofType (type : String) : Filter := all.withType type

end Filter

namespace Router

def defaultCapacity : Nat := 1024

def empty (capacity : Nat) : Router := ⟨.empty capacity, 0⟩

/-- The second part is how many subscriptions there are. -/
def publish (r : Router) (e : Event) : Router × Nat :=
  ({ r with channel := r.channel.send (.ofEvent e) }, r.subscribers)

/-- A subscription sees what is published after it is made. -/
def subscribe (r : Router) (f : Filter) : Router × Subscription :=
  ({ r with subscribers := r.subscribers + 1 }, ⟨f, r.channel.sent⟩)

def unsubscribe (r : Router) : Router := { r with subscribers := r.subscribers - 1 }

end Router

namespace Subscription

def wants (s : Subscription) (r : Routed) : Bool := s.filter.keeps r.category r.event

/-- Where the subscription goes on, and what it reports if that is not where it was. -/
def catchUp (s : Subscription) (channel : Broadcast Routed) :
    Subscription × List Telemetry.Entry :=
  if s.position < channel.oldest then
    ({ s with position := channel.oldest },
      [.warning "casefeed_router::subscription"
        [("skipped", .int (channel.oldest - s.position : Nat))] "event subscription lagged"])
  else (s, [])

/-- The next event that is wanted, if there is one. What is not wanted is passed over. -/
def receive (s : Subscription) (channel : Broadcast Routed) :
    Option Routed × Subscription × List Telemetry.Entry :=
  let (s, reports) := s.catchUp channel
  let pending := channel.since s.position
  match pending.dropWhile (fun r ↦ !s.wants r) with
  | [] => (none, { s with position := s.position + pending.length }, reports)
  | r :: rest =>
    (some r, { s with position := s.position + (pending.length - rest.length) }, reports)

/-- All events that are wanted. -/
def receiveAll (s : Subscription) (channel : Broadcast Routed) :
    List Routed × Subscription × List Telemetry.Entry :=
  let (s, reports) := s.catchUp channel
  let pending := channel.since s.position
  (pending.filter s.wants, { s with position := s.position + pending.length }, reports)

end Subscription

end EventFeed.Routing
