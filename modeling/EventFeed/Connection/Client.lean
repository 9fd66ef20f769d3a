import EventFeed.Connection.Address
import EventFeed.Connection.Config
import EventFeed.Connection.Keepalive
import EventFeed.Connection.State
import EventFeed.Connection.Topics

/-!
# The client

One connection to the feed, opened on demand and tried again when it is lost. Each call that opens
a connection has a number, which is also the number of the connection that comes of it. All times
are in milliseconds.
-/

namespace EventFeed.Connection

inductive Link where
  | idle
  /-- A call to open this address is still to be made. -/
  | waiting (url : String)
  /-- The call is made and has until the deadline. -/
  | opening (call deadline : Nat)
  | open (call : Nat)
  deriving DecidableEq

structure Client where
  state : State
  link : Link
  topics : Topics
  keepalive : Keepalive
  token : Option Token
  /-- Tries since the last connection or request for one. -/
  attempts : Nat
  /-- Whether the caller does not want a connection. -/
  closing : Bool
  /-- When the next try is due. -/
  retry : Option Nat
  /-- How many calls were made. -/
  calls : Nat
  stopped : Bool
  deriving DecidableEq

/-- What a client says about itself. -/
structure Status where
  state : State
  attempts : Nat
  /-- Whether another try is to come. -/
  pending : Bool
  topics : List Topic
  deriving DecidableEq

/-- The client has stopped. -/
inductive Stopped where
  | stopped
  deriving DecidableEq

def Stopped.message : Stopped → String
  | .stopped => "event client task has stopped"

namespace Client

def initial (c : Config) : Client where
  state := .initial
  link := .idle
  topics := .empty
  keepalive := .ofDuration c.keepalive
  token := none
  attempts := 0
  closing := false
  retry := none
  calls := 0
  stopped := false

def snapshot (s : Client) : Status := ⟨s.state, s.attempts, s.retry.isSome, s.topics.toList⟩

/-- The answer to a request for the status. -/
def status (s : Client) : Except Stopped Status :=
  if s.stopped then .error .stopped else .ok s.snapshot

/-- The answer to a request to stop. -/
def shutdown (s : Client) : Except Stopped Unit := if s.stopped then .error .stopped else .ok ()

/-- When the client has something to do although nothing happens to it. -/
def deadlines (s : Client) : List Nat :=
  s.keepalive.next.toList ++ s.retry.toList ++
    match s.link with
    | .opening _ deadline => [deadline]
    | _ => []

end Client

end EventFeed.Connection
