import EventFeed.Notification.Center
import EventFeed.Notification.Session
import EventFeed.Scenario.Scene

/-!
# From the transport to the notifications

A client on a scripted transport, a router that takes its events, and a center that takes the
router's. After each change the client settles first, then the router takes all events, then the
center. The client goes on as long as somebody holds it: its owner, the center, or the task that
follows a sign-in.
-/

namespace EventFeed.Scenario

open Connection (Command Token)
open Notification (Alert Center Notice Session Stamp)
open Routing (Router Subscription)

/-- Where alerts go: to a listener, as long as there is one, or into the log. -/
inductive Sink where
  | listener (present : Bool)
  | log
  deriving DecidableEq

structure Pipeline where
  scene : Scene
  router : Router
  /-- The place of the router in the client's events. -/
  taken : Nat
  /-- The subscription of the center while it is there. -/
  feed : Option Subscription
  center : Center
  session : Session
  sink : Sink
  alerts : List Alert
  /-- Whether the client's owner still holds it. -/
  owned : Bool
  /-- The latest sign-in or sign-out, while there is somebody to tell. -/
  auth : Option (Option Token)
  /-- Whether the task that follows sign-ins runs, once it was started. -/
  bound : Option Bool
  /-- How many stamps were used. -/
  stamps : Nat

namespace Pipeline

def initial (config : Connection.Config) (routerCapacity : Nat) (s : Settings.Notifications)
    (sink : Sink) : Pipeline :=
  let (router, feed) := (Router.empty routerCapacity).subscribe Center.interest
  { scene := .initial config
    router
    taken := 0
    feed := some feed
    center := .empty s.capacity.toNat
    session := ⟨s.defaultTopics⟩
    sink
    alerts := []
    owned := true
    auth := none
    bound := none
    stamps := 0 }

def report (p : Pipeline) (entries : List Telemetry.Entry) : Pipeline :=
  { p with scene := { p.scene with log := p.scene.log ++ entries } }

def raise (p : Pipeline) (a : Alert) : Pipeline :=
  match p.sink with
  | .listener true => { p with alerts := p.alerts ++ [a] }
  | .listener false => p
  | .log => p.report [a.entry]

/-- The center takes one event. -/
def ingest (stamp : Nat → Stamp) (p : Pipeline) (e : Event) : Pipeline × Option Notice :=
  let (center, notice) := p.center.ingest (stamp p.stamps) e
  let p := { p with center, stamps := p.stamps + 1 }
  match notice.bind (·.alert?) with
  | some a => (p.raise a, notice)
  | none => (p, notice)

def publish (p : Pipeline) (e : Event) : Pipeline × Nat :=
  let (router, count) := p.router.publish e
  ({ p with router }, count)

def lagged (count : Nat) : Telemetry.Entry :=
  .warning "casefeed_router::router" [("lagged", .int count)] "event router lagged behind client"

/-- The router takes all events of the client. -/
def route (p : Pipeline) : Pipeline :=
  let (received, taken) := p.scene.events.receiveAll p.taken
  received.foldl
    (fun p r ↦
      match r with
      | .message e => (p.publish e).1
      | .lagged count => p.report [lagged count]
      | .nothing => p)
    { p with taken }

/-- The center takes all events of the router that it wants. -/
def consume (stamp : Nat → Stamp) (p : Pipeline) : Pipeline :=
  match p.feed with
  | none => p
  | some feed =>
    let (events, feed, reports) := feed.receiveAll p.router.channel
    events.foldl (fun p r ↦ (p.ingest stamp r.event).1)
      ({ p with feed := some feed }.report reports)

/-- Whether anybody still holds the client. -/
def isHeld (p : Pipeline) : Bool := p.owned || p.feed.isSome || p.bound = some true

/-- Stops a client that nobody holds. -/
def abandon (p : Pipeline) : Pipeline :=
  if p.isHeld then p else { p with scene := p.scene.command .stop }

def settle (stamp : Nat → Stamp) (p : Pipeline) : Pipeline :=
  (({ p with scene := p.scene.settle }).route.consume stamp)

def sleep (stamp : Nat → Stamp) (p : Pipeline) (millis : Nat) : Pipeline :=
  (({ p with scene := p.scene.sleep millis }).route.consume stamp)

def command (p : Pipeline) (c : Command) : Pipeline := { p with scene := p.scene.command c }

def commands (p : Pipeline) (cs : List Command) : Pipeline := cs.foldl command p

/-- Follows sign-ins from now on, the first of them at once. -/
def bind (p : Pipeline) (token : Option Token) : Pipeline :=
  { p with auth := some token, bound := some true }.commands (p.session.follow token)

/-- A sign-in or sign-out; the second part is the one before it. -/
def signal (p : Pipeline) (token : Option Token) : Pipeline × Option (Option Token) :=
  match p.auth with
  | none => (p, none)
  | some before => ({ p with auth := some token }.commands (p.session.follow token), some before)

/-- There are no more sign-ins, so the task that follows them ends. -/
def dropAuth (p : Pipeline) : Pipeline × Bool :=
  match p.auth with
  | none => (p, false)
  | some _ => ({ p with auth := none, bound := p.bound.map fun _ ↦ false }.abandon, true)

def dropClient (p : Pipeline) : Pipeline × Bool := ({ p with owned := false }.abandon, p.owned)

def dropCenter (p : Pipeline) : Pipeline × Bool :=
  match p.feed with
  | none => (p, false)
  | some _ => ({ p with feed := none, router := p.router.unsubscribe }.abandon, true)

def dropAlerts (p : Pipeline) : Pipeline × Bool :=
  match p.sink with
  | .listener true => ({ p with sink := .listener false }, true)
  | _ => (p, false)

end Pipeline

end EventFeed.Scenario
