import EventFeed.Connection.Input

/-!
# A scripted transport

A transport in memory that does what a script says: it accepts, refuses or never answers a call,
takes or refuses frames, and delivers what is put into it. It writes down what the client did.
At most one connection is live; a later one takes the place of an earlier one, and the end of the
earlier one does not end the later.
-/

namespace EventFeed.Scenario

open Connection (Fault Input)

inductive Outcome where
  | accept
  | refuse
  | hang
  deriving DecidableEq

structure Transport where
  /-- What the next calls do; after them all calls do the same. -/
  script : List Outcome
  fallback : Outcome
  failSends : Bool
  /-- The time and address of each call, the newest first. -/
  opens : List (Nat × String)
  /-- The frames that were sent, the newest first. -/
  sent : List String
  /-- How often the client closed a connection. -/
  closes : Nat
  /-- The call of the live connection. -/
  live : Option Nat
  /-- What the client is still to be told. -/
  inbox : List Input
  deriving DecidableEq

namespace Transport

def initial : Transport := ⟨[], .accept, false, [], [], 0, none, []⟩

def sendFault : Fault := .sendFailed "send refused (scripted)"

def openFault : Fault := .connectFailed "connection refused (scripted)"

/-- The answer to every frame. -/
def refusal (t : Transport) : Option Fault := if t.failSends then some sendFault else none

/-- The outcome of the next call. -/
def nextOutcome (t : Transport) : Outcome := t.script.headD t.fallback

def deliver (t : Transport) (i : Input) : Transport := { t with inbox := t.inbox ++ [i] }

def «open» (t : Transport) (now call : Nat) (url : String) : Transport :=
  let called := { t with opens := (now, url) :: t.opens, script := t.script.tail }
  match t.nextOutcome with
  | .accept => { called with live := some call }.deliver (.opened call)
  | .refuse => called.deliver (.refused call openFault)
  | .hang => called

def send (t : Transport) (frame : Frame.Control) : Transport :=
  { t with sent := frame.encode :: t.sent }

/-- The frames that can be read in what was sent, the oldest first. -/
def sentFrames (t : Transport) : List Frame.Control :=
  t.sent.reverse.filterMap Frame.Control.ofText?

/-- Only the live connection can stop being it. -/
def close (t : Transport) (call : Nat) : Transport :=
  { t with closes := t.closes + 1, live := if t.live = some call then none else t.live }

/-- Delivers a text, if a connection is live. -/
def push (t : Transport) (text : String) : Transport × Bool :=
  match t.live with
  | some call => (t.deliver (.frame call text), true)
  | none => (t, false)

def fail (t : Transport) (f : Fault) : Transport × Bool :=
  match t.live with
  | some call => (t.deliver (.failed call f), true)
  | none => (t, false)

/-- The peer closes the live connection. -/
def drop (t : Transport) : Transport × Bool :=
  match t.live with
  | some call => ({ t with live := none }.deliver (.closed call), true)
  | none => (t, false)

end Transport

end EventFeed.Scenario
