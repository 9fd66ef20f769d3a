import EventFeed.Broadcast
import EventFeed.Connection.Turn
import EventFeed.Scenario.Transport

/-!
# A client on a scripted transport

The client and the transport under a clock that moves only when it is told to, and then stops at
every deadline of the client. At each time the client takes what it can until nothing is left to
do; `settle` does that, and `sleep` moves the clock.
-/

namespace EventFeed.Scenario

open Connection (Client Command Config Effect Input)

structure Scene where
  config : Config
  client : Client
  transport : Transport
  now : Nat
  /-- The changes of state, for those who follow them. -/
  transitions : Broadcast Connection.State
  events : Broadcast Event
  log : List Telemetry.Entry

namespace Scene

/-- How many changes of state a slow observer may be behind. -/
def transitionBuffer : Nat := 64

def initial (c : Config) : Scene where
  config := c
  client := .initial c
  transport := .initial
  now := 0
  transitions := .empty transitionBuffer
  events := .empty c.eventBuffer
  log := []

def perform (s : Scene) : Effect → Scene
  | .open call url => { s with transport := s.transport.open s.now call url }
  | .send _ frame => { s with transport := s.transport.send frame }
  | .close call => { s with transport := s.transport.close call }
  | .become state => { s with transitions := s.transitions.send state }
  | .publish event => { s with events := s.events.send event }
  | .answer _ => s
  | .report entry => { s with log := s.log ++ [entry] }

def take (s : Scene) (i : Input) : Scene :=
  let (client, effects) := s.client.step s.config ⟨s.now, fun _ ↦ s.transport.refusal⟩ i
  effects.foldl perform { s with client }

/-- What the client does next by itself: a call that is waiting, then what the transport has for
it, then the timers. -/
def next? (s : Scene) : Option (Input × Scene) :=
  match s.client.link, s.transport.inbox with
  | .waiting _, _ => some (.begin, s)
  | _, i :: inbox => some (i, { s with transport := { s.transport with inbox } })
  | link, [] =>
    if s.client.keepalive.isDue s.now then some (.ping, s)
    else if s.client.retry.any (· ≤ s.now) then some (.retry, s)
    else
      match link with
      | .opening _ deadline => if deadline ≤ s.now then some (.expired, s) else none
      | _ => none

/-- At most `bound` inputs. -/
def settleWithin : (bound : Nat) → Scene → Scene
  | 0, s => s
  | bound + 1, s =>
    match s.next? with
    | some (i, s) => settleWithin bound (s.take i)
    | none => s

/-- At one time each delivery is taken once, and each try takes three inputs. -/
def settle (s : Scene) : Scene :=
  s.settleWithin (s.transport.inbox.length + 3 * (s.config.backoff.maxAttempts + 2))

def command (s : Scene) (c : Command) : Scene := s.take (.command c)

/-- The next deadline up to a time. -/
def deadline? (s : Scene) (limit : Nat) : Option Nat :=
  if s.client.stopped then none else (s.client.deadlines.filter (· ≤ limit)).min?

/-- Moves the clock to `target` with at most `bound` stops on the way. -/
def sleepWithin (target : Nat) : (bound : Nat) → Scene → Scene
  | 0, s => { s with now := target }.settle
  | bound + 1, s =>
    match s.deadline? target with
    | some time => sleepWithin target bound ({ s with now := max s.now time }.settle)
    | none => { s with now := target }.settle

def sleep (s : Scene) (millis : Nat) : Scene := s.sleepWithin (s.now + millis) (millis + 1)

end Scene

end EventFeed.Scenario
