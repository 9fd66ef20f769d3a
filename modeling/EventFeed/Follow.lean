import EventFeed.Follow.Options
import EventFeed.Scenario.Pipeline
import EventFeed.Telemetry.Output

/-!
# Following a feed

What a user is shown of a feed: each new state of the connection, each new notification and each
alert on a line of its own, and at the end how many notifications there were and the last warnings.
The frames are given one by one, with the time that has passed since the one before.
-/

namespace EventFeed

namespace Connection.State

/-- The line for a new state. -/
def line (s : State) : String := "-- " ++ s.name

end Connection.State

namespace Notification

/-- The line for an alert. -/
def Alert.line (a : Alert) : String :=
  "[" ++ a.severity.name ++ "] " ++ a.title ++ ": " ++ a.body

/-- The line for a new notification; its severity takes seven columns. -/
def Record.line (r : Record) : String :=
  let severity := r.severity.name
  r.timestamp ++ " " ++ severity ++ String.ofList (List.replicate (7 - severity.length) ' ') ++
    " " ++ r.title ++ " | " ++ r.body ++ " " ++ r.link.getD ""

end Notification

/-- The line for a warning that was kept. -/
def Telemetry.Record.line (r : Telemetry.Record) : String :=
  "  " ++ r.timestamp ++ " " ++ r.level ++ " " ++ r.message

/-- A feed that is followed, and how much of it was shown. -/
structure Follow where
  pipeline : Scenario.Pipeline
  output : Telemetry.Output
  states : Nat
  records : Nat

namespace Follow

open Notification (Stamp)

def routerCapacity : Nat := Routing.Router.defaultCapacity

/-- Subscribes the topics that were asked for, and signs in. -/
def start (s : Settings) (o : Options) : Follow :=
  let config := Connection.Config.ofSettings s.client
  let pipeline := Scenario.Pipeline.initial config routerCapacity s.notifications (.listener true)
  { pipeline := (pipeline.commands (o.topics.map .subscribe)).commands
      (pipeline.session.start ⟨o.token.getD ""⟩)
    output := .ofConfig (.ofSettings s.logging) none
    states := 0
    records := 0 }

def messages (received : List (Broadcast.Received α)) : List α :=
  received.filterMap fun
    | .message a => some a
    | _ => none

/-- The lines for what is new, reports first. -/
def flush (time : Time.Instant) (f : Follow) : List String × Follow :=
  let reports := f.pipeline.scene.log
  let (states, seen) := f.pipeline.scene.transitions.receiveAll f.states
  let (records, known) := f.pipeline.center.records.receiveAll f.records
  let lines := reports.filterMap fun e ↦ (f.output.line? e).map fun
    | .inl text => time.text ++ " " ++ text
    | .inr json => json.print
  (lines ++ (messages states).map (·.line) ++ f.pipeline.alerts.map (·.line) ++
      (messages records).map (·.line),
    { f with
      pipeline := { f.pipeline with alerts := [], scene := { f.pipeline.scene with log := [] } }
      output := reports.foldl (fun o e ↦ o.log time e) f.output
      states := seen
      records := known })

/-- Lets some milliseconds pass. -/
def wait (stamp : Nat → Stamp) (f : Follow) (millis : Nat) : Follow :=
  { f with pipeline := (f.pipeline.sleep stamp millis) }

def receive (stamp : Nat → Stamp) (f : Follow) (text : String) : Follow :=
  let transport := (f.pipeline.scene.transport.push text).1
  { f with
    pipeline := { f.pipeline with scene := { f.pipeline.scene with transport } }.settle stamp }

/-- Signs out and stops. -/
def finish (stamp : Nat → Stamp) (f : Follow) : Follow :=
  { f with
    pipeline := ((f.pipeline.commands Notification.Session.finish).command .stop).settle stamp }

/-- How many of the last warnings are shown at the end. -/
def recent : Nat := 5

/-- The lines at the end, the oldest warning first. -/
def summary (f : Follow) : List String :=
  let log := f.pipeline.center.log
  let warnings := f.output.memory.toList.flatMap fun m ↦
    m.query { Telemetry.Query.all with limit := some recent }
  ((Json.nat log.size).print ++ " notifications, " ++ (Json.nat log.unread).print ++ " unread") ::
    warnings.reverse.map (·.line)

end Follow

end EventFeed
