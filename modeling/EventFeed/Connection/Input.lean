import EventFeed.Connection.Client
import EventFeed.Connection.Fault
import EventFeed.Frame.Event
import EventFeed.Telemetry.Entry

/-!
# What a client takes and what it does

An input is a command, an outcome of the link, or a timer that may be due. An outcome bears the
number of its call. Effects are what the others see of a step: calls, frames and closes on the
transport, changes of state, events, answers to those who ask, and reports to the log.
-/

namespace EventFeed.Connection

inductive Command where
  | connect (token : Option Token)
  | disconnect
  | subscribe (topic : Topic)
  | unsubscribe (topic : Topic)
  | status
  /-- A request to stop, or nobody holds the client any more. -/
  | stop
  deriving DecidableEq

inductive Input where
  | command (c : Command)
  /-- The attempt that is waiting makes its call. -/
  | begin
  | opened (call : Nat)
  | refused (call : Nat) (fault : Fault)
  | frame (call : Nat) (text : String)
  | failed (call : Nat) (fault : Fault)
  | closed (call : Nat)
  /-- The call has taken too long. -/
  | expired
  | ping
  | retry
  deriving DecidableEq

inductive Effect where
  | open (call : Nat) (url : String)
  | send (call : Nat) (frame : Frame.Control)
  | close (call : Nat)
  | become (state : State)
  | publish (event : Event)
  | answer (status : Status)
  | report (entry : Telemetry.Entry)

/-- When a step is taken, in milliseconds, and what the connection answers to a frame. -/
structure Moment where
  now : Nat
  refusal : Frame.Control → Option Fault

end EventFeed.Connection
