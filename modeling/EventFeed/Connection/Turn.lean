import EventFeed.Connection.Client
import EventFeed.Connection.Input
import EventFeed.Connection.Report

/-!
# Turns

A turn is a step in progress: the client so far, and what it has done, in order. What an abandoned
attempt or a closed connection still brings has a number that is not the link's, and is dropped, as
is a timer that is not due. A client that has stopped drops everything.
-/

namespace EventFeed.Connection

structure Turn where
  client : Client
  effects : List Effect

namespace Turn

def ofClient (s : Client) : Turn := ⟨s, []⟩

def emit (t : Turn) (e : Effect) : Turn := { t with effects := t.effects ++ [e] }

def update (t : Turn) (f : Client → Client) : Turn := { t with client := f t.client }

/-- A state that is not new is no transition. -/
def become (t : Turn) (state : State) : Turn :=
  if t.client.state = state then t
  else (t.update fun s ↦ { s with state }).emit (.become state)

def stopKeepalive (t : Turn) : Turn := t.update fun s ↦ { s with keepalive := s.keepalive.stop }

/-- Closes the connection if there is one. -/
def release (t : Turn) : Turn :=
  let s := t.update fun s ↦ { s with link := .idle }
  match t.client.link with
  | .open call => s.emit (.close call)
  | _ => s

/-- Another try, if there may be one. -/
def scheduleRetry (c : Config) (now : Nat) (t : Turn) : Turn :=
  if c.backoff.allows t.client.attempts then
    t.update fun s ↦
      { s with
        attempts := s.attempts + 1
        retry := some (now + c.backoff.delayMillis (s.attempts + 1)) }
  else t.emit (.report (Report.exhausted t.client.attempts))

/-- What follows when the connection is gone. -/
def lost (c : Config) (now : Nat) (t : Turn) : Turn :=
  let t := t.stopKeepalive.become .disconnected
  if t.client.closing then t else t.scheduleRetry c now

def fail (c : Config) (now : Nat) (f : Fault) (t : Turn) : Turn :=
  ((t.emit (.report (Report.fault f))).stopKeepalive.become .error).release.lost c now

/-- Sends a frame if there is a connection; the second part says whether it was sent. -/
def send (c : Config) (m : Moment) (frame : Frame.Control) (t : Turn) : Turn × Bool :=
  match t.client.link with
  | .open call =>
    match m.refusal frame with
    | none => (t.emit (.send call frame), true)
    | some f => (t.fail c m.now f, false)
  | _ => (t, false)

/-- Sends frames until one is not sent; the second part says whether all were. -/
def sendAll (c : Config) (m : Moment) : List Frame.Control → Turn → Turn × Bool
  | [], t => (t, true)
  | frame :: frames, t =>
    match t.send c m frame with
    | (t, true) => sendAll c m frames t
    | (t, false) => (t, false)

/-- An attempt with the address as it is now. The call is made later. -/
def beginConnect (c : Config) (t : Turn) : Turn :=
  (t.stopKeepalive.update fun s ↦
    { s with link := .waiting (Address.withToken c.url s.token) }).become .connecting

/-- A connection that is open is kept, with its token. -/
def connect (c : Config) (token : Option Token) (t : Turn) : Turn :=
  match t.client.link with
  | .open _ => t
  | _ =>
    (t.update fun s ↦
      { s with closing := false, retry := none, attempts := 0, token }).beginConnect c

def disconnect (c : Config) (now : Nat) (t : Turn) : Turn :=
  (t.update fun s ↦ { s with closing := true, retry := none }).stopKeepalive.release.lost c now

/-- Tells the server, if the client is connected. -/
def tell (c : Config) (m : Moment) (frame : Frame.Control) (undelivered : Telemetry.Entry)
    (t : Turn) : Turn :=
  if t.client.state = .connected then
    match t.send c m frame with
    | (t, true) => t
    | (t, false) => t.emit (.report undelivered)
  else t

def command (c : Config) (m : Moment) (t : Turn) : Command → Turn
  | .connect token => t.connect c token
  | .disconnect => t.disconnect c m.now
  | .subscribe topic =>
    (t.update fun s ↦ { s with topics := s.topics.insert topic }).tell c m
      (.subscribe topic) (Report.subscribeLost topic)
  | .unsubscribe topic =>
    (t.update fun s ↦ { s with topics := s.topics.erase topic }).tell c m
      (.unsubscribe topic) (Report.unsubscribeLost topic)
  | .status => t.emit (.answer t.client.snapshot)
  | .stop => (t.disconnect c m.now).update fun s ↦ { s with stopped := true }

/-- The call for the attempt that is waiting. -/
def openCall (c : Config) (m : Moment) (url : String) (t : Turn) : Turn :=
  let call := t.client.calls + 1
  (t.update fun s ↦
    { s with link := .opening call (m.now + c.connectTimeout.ceilMillis), calls := call }).emit
    (.open call url)

/-- A new connection is told the topics first; then the pings start. -/
def opened (c : Config) (m : Moment) (call : Nat) (t : Turn) : Turn :=
  let t := (t.update fun s ↦ { s with link := .open call, attempts := 0 }).become .connected
  match t.sendAll c m t.client.topics.replay with
  | (t, true) => t.update fun s ↦ { s with keepalive := s.keepalive.start m.now }
  | (t, false) => t

/-- No connection has come of the attempt. -/
def refused (c : Config) (now : Nat) (f : Fault) (t : Turn) : Turn :=
  (t.update fun s ↦ { s with link := .idle }).fail c now f

def frame (text : String) (t : Turn) : Turn :=
  match Frame.decode text with
  | .ok event => t.emit (.publish event)
  | .error e => t.emit (.report (Report.malformed e))

def peerClosed (c : Config) (now : Nat) (t : Turn) : Turn :=
  (t.update fun s ↦ { s with link := .idle }).lost c now

def ping (c : Config) (m : Moment) (t : Turn) : Turn :=
  ((t.update fun s ↦ { s with keepalive := s.keepalive.tick m.now }).send c m .ping).1

def retry (c : Config) (t : Turn) : Turn :=
  (t.update fun s ↦ { s with retry := none }).beginConnect c

/-- What an input does, if it concerns the client as it is. -/
def take (c : Config) (m : Moment) (t : Turn) : Input → Turn
  | .command command => t.command c m command
  | .begin =>
    match t.client.link with
    | .waiting url => t.openCall c m url
    | _ => t
  | .opened n =>
    match t.client.link with
    | .opening call _ => if n = call then t.opened c m call else t
    | _ => t
  | .refused n f =>
    match t.client.link with
    | .opening call _ => if n = call then t.refused c m.now f else t
    | _ => t
  | .frame n text => if t.client.link = .open n then t.frame text else t
  | .failed n f => if t.client.link = .open n then t.fail c m.now f else t
  | .closed n => if t.client.link = .open n then t.peerClosed c m.now else t
  | .expired =>
    match t.client.link with
    | .opening _ deadline =>
      if deadline ≤ m.now then t.refused c m.now (.timeout c.connectTimeout) else t
    | _ => t
  | .ping => if t.client.keepalive.isDue m.now then t.ping c m else t
  | .retry => if t.client.retry.any (· ≤ m.now) then t.retry c else t

end Turn

namespace Client

/-- One input: the client after it, and what it did. -/
def step (c : Config) (m : Moment) (s : Client) (i : Input) : Client × List Effect :=
  if s.stopped then (s, [])
  else
    let t := (Turn.ofClient s).take c m i
    (t.client, t.effects)

/-- A sequence of inputs, each at its moment. -/
def run (c : Config) (s : Client) : List (Moment × Input) → Client × List Effect
  | [] => (s, [])
  | (m, i) :: inputs =>
    let (s, first) := s.step c m i
    let (s, rest) := s.run c inputs
    (s, first ++ rest)

end Client

end EventFeed.Connection
