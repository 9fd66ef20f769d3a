import EventFeed.Proofs.Connection.Outcome

/-!
# What one input does

`Settled` is what holds of a client between two inputs. `Reaction` lists what such a client does
with one input, each case with the client after it and its effects in order; `reaction_step` says
that the list is complete. What holds of every run is proved from the list, not from the functions
behind it.
-/

namespace EventFeed.Connection

/-- What holds of a client that waits for its next input. -/
structure Settled (c : Config) (s : Client) : Prop where
  state : s.state = s.link.state
  period : s.keepalive.period = c.keepalive
  keepalive : s.keepalive.isRunning = true ↔ s.link.isOpen = true ∧ c.keepalive.nanos ≠ 0
  retry : s.retry.isSome = true → s.link = .idle ∧ s.closing = false ∧ 0 < s.attempts
  attempts : s.link.isOpen = true → s.attempts = 0
  closing : s.closing = true → s.link = .idle ∧ s.retry = none
  budget : s.attempts ≤ c.backoff.maxAttempts
  stopped : s.stopped = true → s.closing = true

namespace Settled

variable {c : Config} {s : Client}

theorem closing_eq_false (h : Settled c s) (hl : s.link ≠ .idle) : s.closing = false := by
  cases hc : s.closing with
  | false => rfl
  | true => exact absurd (h.closing hc).1 hl

theorem retry_eq_none (h : Settled c s) (hl : s.link ≠ .idle) : s.retry = none := by
  cases hr : s.retry with
  | none => rfl
  | some time => exact absurd (h.retry (by simp [hr])).1 hl

theorem stopped_eq_false (h : Settled c s) (hl : s.link ≠ .idle) : s.stopped = false := by
  cases hs : s.stopped with
  | false => rfl
  | true =>
      have hc := h.closing_eq_false hl
      simp [h.stopped hs] at hc

theorem state_eq (h : Settled c s) {l : Link} (hlink : s.link = l) : s.state = l.state := by
  rw [h.state, hlink]

theorem state_ne_error (h : Settled c s) : s.state ≠ .error := by
  rw [h.state]
  exact s.link.state_ne_error

theorem state_eq_connected_iff (h : Settled c s) : s.state = .connected ↔ s.link.isOpen = true := by
  rw [h.state]
  exact Link.state_eq_connected_iff

theorem isRunning_eq_false (h : Settled c s) (hopen : s.link.isOpen = false) :
    s.keepalive.isRunning = false := by
  cases hrunning : s.keepalive.isRunning with
  | false => rfl
  | true =>
      have htrue := (h.keepalive.1 hrunning).1
      simp [hopen] at htrue

theorem isOpen_of_isDue (h : Settled c s) {now : Nat} (hdue : s.keepalive.isDue now = true) :
    s.link.isOpen = true :=
  (h.keepalive.1 (Keepalive.isRunning_of_isDue hdue)).1

end Settled

namespace Client

/-- The inputs that do not concern the client as it is. -/
def Ignores (m : Moment) (s : Client) : Input → Prop
  | .command (.connect _) => s.link.isOpen = true
  | .command _ => False
  | .begin => ∀ url, s.link ≠ .waiting url
  | .opened call => ∀ deadline, s.link ≠ .opening call deadline
  | .refused call _ => ∀ deadline, s.link ≠ .opening call deadline
  | .frame call _ => s.link ≠ .open call
  | .failed call _ => s.link ≠ .open call
  | .closed call => s.link ≠ .open call
  | .expired => ∀ call deadline, s.link = .opening call deadline → m.now < deadline
  | .ping => s.keepalive.isDue m.now = false
  | .retry => s.retry.any (· ≤ m.now) = false

/-- The inputs that end an attempt or a connection with a fault. -/
inductive Fails (c : Config) (m : Moment) (s : Client) : Input → Fault → Prop
  | refused {call deadline : Nat} {f : Fault} (hlink : s.link = .opening call deadline) :
      Fails c m s (.refused call f) f
  | expired {call deadline : Nat} (hlink : s.link = .opening call deadline)
      (hdue : deadline ≤ m.now) : Fails c m s .expired (.timeout c.connectTimeout)
  | failed {call : Nat} {f : Fault} (hlink : s.link = .open call) : Fails c m s (.failed call f) f
  | unpinged {call : Nat} {f : Fault} (hlink : s.link = .open call)
      (hdue : s.keepalive.isDue m.now = true) (hrefused : m.refusal .ping = some f) :
      Fails c m s .ping f

/-- The commands about a topic: the topics after it, the frame that tells the server, and the
report if the frame is not sent. -/
inductive Wish (topics : Topics) : Command → Topics → Frame.Control → Telemetry.Entry → Prop
  | subscribe (topic : Topic) :
      Wish topics (.subscribe topic) (topics.insert topic) (.subscribe topic)
        (Report.subscribeLost topic)
  | unsubscribe (topic : Topic) :
      Wish topics (.unsubscribe topic) (topics.erase topic) (.unsubscribe topic)
        (Report.unsubscribeLost topic)

def heardEffect (text : String) : Effect :=
  match Frame.decode text with
  | .ok event => .publish event
  | .error e => .report (Report.malformed e)

theorem heardEffect_cases (text : String) :
    (∃ event, heardEffect text = .publish event) ∨
      ∃ entry, heardEffect text = .report entry := by
  simp only [heardEffect]
  cases Frame.decode text <;> simp

inductive Reaction (c : Config) (m : Moment) (s : Client) : Input → Client → List Effect → Prop
  | ignored {i : Input} (h : s.stopped = true ∨ s.Ignores m i) : Reaction c m s i s []
  | asked : Reaction c m s (.command .status) s [.answer s.snapshot]
  | dialled {token : Option Token} (hlink : s.link.isOpen = false) (hlive : s.stopped = false) :
      Reaction c m s (.command (.connect token))
        ({ s with closing := false, retry := none, attempts := 0, token }.dial c)
        (s.become .connecting)
  | hungUp :
      Reaction c m s (.command .disconnect) s.hangUp (s.link.release ++ s.become .disconnected)
  | stopped :
      Reaction c m s (.command .stop) { s.hangUp with stopped := true }
        (s.link.release ++ s.become .disconnected)
  | noted {command : Command} {topics : Topics} {frame : Frame.Control} {entry : Telemetry.Entry}
      (w : Wish s.topics command topics frame entry) (hlink : s.link.isOpen = false) :
      Reaction c m s (.command command) { s with topics } []
  | told {command : Command} {topics : Topics} {frame : Frame.Control} {entry : Telemetry.Entry}
      {call : Nat} (w : Wish s.topics command topics frame entry) (hlink : s.link = .open call)
      (hsent : m.refusal frame = none) :
      Reaction c m s (.command command) { s with topics } [.send call frame]
  | untold {command : Command} {topics : Topics} {frame : Frame.Control}
      {entry : Telemetry.Entry} {call : Nat} {f : Fault}
      (w : Wish s.topics command topics frame entry) (hlink : s.link = .open call)
      (hrefused : m.refusal frame = some f) :
      Reaction c m s (.command command) ({ s with topics }.lose c m.now)
        (s.faultEffects c f ++ [.report entry])
  | called {url : String} (hlink : s.link = .waiting url) :
      Reaction c m s .begin
        { s with
          link := .opening (s.calls + 1) (m.now + c.connectTimeout.ceilMillis)
          calls := s.calls + 1 }
        [.open (s.calls + 1) url]
  | opened {call deadline : Nat} (hlink : s.link = .opening call deadline)
      (hsent : ∀ frame ∈ s.topics.replay, m.refusal frame = none) :
      Reaction c m s (.opened call)
        { s.accept call with keepalive := s.keepalive.start m.now }
        (.become .connected :: s.topics.replay.map (.send call))
  | broken {call deadline : Nat} {sent unsent : List Frame.Control} {frame : Frame.Control}
      {f : Fault} (hlink : s.link = .opening call deadline)
      (hreplay : s.topics.replay = sent ++ frame :: unsent)
      (hsent : ∀ frame ∈ sent, m.refusal frame = none) (hrefused : m.refusal frame = some f) :
      Reaction c m s (.opened call) ((s.accept call).lose c m.now)
        (.become .connected :: sent.map (.send call) ++ (s.accept call).faultEffects c f)
  | failed {i : Input} {f : Fault} (h : s.Fails c m i f) :
      Reaction c m s i (s.lose c m.now) (s.faultEffects c f)
  | closed {call : Nat} (hlink : s.link = .open call) :
      Reaction c m s (.closed call) (s.lose c m.now) (s.lossEffects c)
  | heard {call : Nat} {text : String} (hlink : s.link = .open call) :
      Reaction c m s (.frame call text) s [heardEffect text]
  | pinged {call : Nat} (hlink : s.link = .open call) (hdue : s.keepalive.isDue m.now = true)
      (hsent : m.refusal .ping = none) :
      Reaction c m s .ping { s with keepalive := s.keepalive.tick m.now } [.send call .ping]
  | retried {time : Nat} (hlink : s.link = .idle) (htime : s.retry = some time)
      (hdue : time ≤ m.now) :
      Reaction c m s .retry ({ s with retry := none }.dial c) [.become .connecting]

theorem Fails.link_ne_idle {c : Config} {m : Moment} {s : Client} {i : Input} {f : Fault}
    (h : s.Fails c m i f) : s.link ≠ .idle := by
  cases h <;> simp_all

theorem Fails.not_ignores {c : Config} {m : Moment} {s : Client} {i : Input} {f : Fault}
    (h : s.Fails c m i f) : ¬ s.Ignores m i := by
  cases h with
  | refused hlink => simp [Ignores, hlink]
  | expired hlink hdue =>
      intro hlate
      exact absurd (hlate _ _ hlink) (by omega)
  | failed hlink => simp [Ignores, hlink]
  | unpinged hlink hdue => simp [Ignores, hdue]

@[simp] theorem step_of_stopped (c : Config) (m : Moment) {s : Client} (i : Input)
    (h : s.stopped = true) : s.step c m i = (s, []) := by simp [step, h]

section Complete

variable {c : Config} {m : Moment} {s : Client}

/-! ## Commands -/

theorem step_disconnect (hlive : s.stopped = false) :
    s.step c m (.command .disconnect) =
      (s.hangUp, s.link.release ++ s.become .disconnected) := by
  simp [step, hlive, Turn.take, Turn.command, Turn.disconnect_eq, Turn.ofClient]

theorem step_stop (hlive : s.stopped = false) :
    s.step c m (.command .stop) =
      ({ s.hangUp with stopped := true }, s.link.release ++ s.become .disconnected) := by
  simp [step, hlive, Turn.take, Turn.command, Turn.disconnect_eq, Turn.ofClient, Turn.update]

theorem step_begin (hlive : s.stopped = false) {url : String} (hlink : s.link = .waiting url)
    (c : Config) (m : Moment) :
    s.step c m .begin =
      ({ s with
          link := .opening (s.calls + 1) (m.now + c.connectTimeout.ceilMillis)
          calls := s.calls + 1 },
        [.open (s.calls + 1) url]) := by
  simp [step, hlive, Turn.take, Turn.ofClient, hlink, Turn.openCall, Turn.update, Turn.emit]

theorem Reaction.of_take {i : Input} {s' : Client} {effects : List Effect}
    (hlive : s.stopped = false) (htake : (Turn.ofClient s).take c m i = ⟨s', effects⟩)
    (r : Reaction c m s i s' effects) : Reaction c m s i (s.step c m i).1 (s.step c m i).2 := by
  have hstep : s.step c m i = (s', effects) := by simp [step, hlive, htake]
  rw [hstep]
  exact r

theorem Reaction.of_ignored {i : Input} (hlive : s.stopped = false)
    (htake : (Turn.ofClient s).take c m i = Turn.ofClient s) (h : s.Ignores m i) :
    Reaction c m s i (s.step c m i).1 (s.step c m i).2 :=
  .of_take hlive htake (.ignored (Or.inr h))

/-- A wish is told to the server exactly when there is a connection. -/
theorem reaction_wish (h : Settled c s) {command : Command} {topics : Topics}
    {frame : Frame.Control} {entry : Telemetry.Entry}
    (w : Wish s.topics command topics frame entry) (hlive : s.stopped = false)
    (htake : (Turn.ofClient s).take c m (.command command) =
      (⟨{ s with topics }, []⟩ : Turn).tell c m frame entry) :
    Reaction c m s (.command command) (s.step c m (.command command)).1
      (s.step c m (.command command)).2 := by
  cases hopen : s.link.isOpen with
  | false =>
      have hstate : s.state ≠ .connected := by simp [h.state_eq_connected_iff, hopen]
      refine .of_take hlive (htake.trans ?_) (.noted w hopen)
      simp [Turn.tell, hstate]
  | true =>
      have hstate : s.state = .connected := h.state_eq_connected_iff.2 hopen
      obtain ⟨call, hlink⟩ := Link.isOpen_iff.1 hopen
      have hwanted := h.closing_eq_false (by simp [hlink])
      cases hrefusal : m.refusal frame with
      | none =>
          have hsend := Turn.send_of_accepted c (t := ⟨{ s with topics }, []⟩) hlink hrefusal
          refine .of_take hlive (htake.trans ?_) (.told w hlink hrefusal)
          rw [Turn.tell, if_pos hstate, hsend]
          rfl
      | some f =>
          have hsend := Turn.send_of_refused c (t := ⟨{ s with topics }, []⟩) hlink hrefusal
            hwanted h.state_ne_error
          refine .of_take hlive (htake.trans ?_) (.untold w hlink hrefusal)
          rw [Turn.tell, if_pos hstate, hsend]
          rfl

theorem reaction_command (h : Settled c s) (hlive : s.stopped = false) (command : Command) :
    Reaction c m s (.command command) (s.step c m (.command command)).1
      (s.step c m (.command command)).2 := by
  cases command with
  | connect token =>
      cases hopen : s.link.isOpen with
      | true =>
          obtain ⟨call, hlink⟩ := Link.isOpen_iff.1 hopen
          refine .of_ignored hlive ?_ hopen
          simp [Turn.take, Turn.command, Turn.connect, Turn.ofClient, hlink]
      | false =>
          refine .of_take hlive ?_ (.dialled hopen hlive)
          cases hlink : s.link <;>
            simp_all [Turn.take, Turn.command, Turn.connect, Turn.ofClient, Turn.beginConnect_eq,
              Turn.update, become, Link.isOpen]
  | disconnect =>
      rw [step_disconnect hlive]
      exact .hungUp
  | subscribe topic => exact reaction_wish h (.subscribe topic) hlive rfl
  | unsubscribe topic => exact reaction_wish h (.unsubscribe topic) hlive rfl
  | status => exact .of_take hlive rfl .asked
  | stop =>
      rw [step_stop hlive]
      exact .stopped

/-! ## Attempts -/

/-- What an abandoned attempt brings does not count. -/
theorem take_of_ne_opening {call : Nat} {i : Input}
    (hi : i = .opened call ∨ ∃ f, i = .refused call f)
    (hne : ∀ deadline, s.link ≠ .opening call deadline) :
    (Turn.ofClient s).take c m i = Turn.ofClient s := by
  cases hlink : s.link with
  | opening n deadline =>
      have hn : call ≠ n := fun hn ↦ hne deadline (by rw [hlink, hn])
      rcases hi with rfl | ⟨f, rfl⟩ <;> simp [Turn.take, Turn.ofClient, hlink, hn]
  | _ => rcases hi with rfl | ⟨f, rfl⟩ <;> simp [Turn.take, Turn.ofClient, hlink]

theorem reaction_begin (hlive : s.stopped = false) :
    Reaction c m s .begin (s.step c m .begin).1 (s.step c m .begin).2 := by
  cases hl : s.link with
  | waiting url =>
      refine .of_take hlive ?_ (.called hl)
      simp [Turn.take, Turn.ofClient, hl, Turn.openCall, Turn.update, Turn.emit]
  | _ => exact .of_ignored hlive (by simp [Turn.take, Turn.ofClient, hl]) (by simp [Ignores, hl])

theorem reaction_opened (h : Settled c s) (hlive : s.stopped = false) (call : Nat) :
    Reaction c m s (.opened call) (s.step c m (.opened call)).1
      (s.step c m (.opened call)).2 := by
  by_cases hlink : ∃ deadline, s.link = .opening call deadline
  · obtain ⟨deadline, hlink⟩ := hlink
    have hwanted := h.closing_eq_false (by simp [hlink])
    have hstate : s.state = .connecting := h.state_eq hlink
    have htake : (Turn.ofClient s).take c m (.opened call) =
        (Turn.ofClient s).opened c m call := by simp [Turn.take, Turn.ofClient, hlink]
    -- The replay runs with the new connection in place, so a refused frame closes it.
    rcases Turn.sendAll_cases c (m := m)
        (t := ⟨s.accept call, [.become .connected]⟩) s.topics.replay rfl hwanted
        (by simp [accept]) with
      ⟨hsent, heq⟩ | ⟨sent, frame, unsent, f, hreplay, hsent, hrefused, heq⟩
    · refine .of_take hlive (htake.trans ?_) (.opened hlink hsent)
      simp only [accept] at heq
      simp [Turn.opened, Turn.ofClient, Turn.update, Turn.become_eq, become, hstate, heq, accept]
    · refine .of_take hlive (htake.trans ?_) (.broken hlink hreplay hsent hrefused)
      simp only [accept] at heq
      simp [Turn.opened, Turn.ofClient, Turn.update, Turn.become_eq, become, hstate, heq, accept]
  · have hne := not_exists.1 hlink
    exact .of_ignored hlive (take_of_ne_opening (Or.inl rfl) hne) hne

theorem reaction_refused (h : Settled c s) (hlive : s.stopped = false) (call : Nat) (f : Fault) :
    Reaction c m s (.refused call f) (s.step c m (.refused call f)).1
      (s.step c m (.refused call f)).2 := by
  by_cases hlink : ∃ deadline, s.link = .opening call deadline
  · obtain ⟨deadline, hlink⟩ := hlink
    have hwanted := h.closing_eq_false (by simp [hlink])
    have hrefused := Turn.refused_eq c m.now f (t := Turn.ofClient s)
      (by simp [Turn.ofClient, hlink, Link.isOpen]) hwanted h.state_ne_error
    refine .of_take hlive ?_ (.failed (.refused hlink))
    simpa [Turn.take, Turn.ofClient, hlink] using hrefused
  · have hne := not_exists.1 hlink
    exact .of_ignored hlive (take_of_ne_opening (Or.inr ⟨f, rfl⟩) hne) hne

/-! ## Connections -/

theorem reaction_frame (hlive : s.stopped = false) (call : Nat) (text : String) :
    Reaction c m s (.frame call text) (s.step c m (.frame call text)).1
      (s.step c m (.frame call text)).2 := by
  by_cases hlink : s.link = .open call
  · refine .of_take hlive ?_ (.heard hlink)
    simp only [Turn.take, Turn.ofClient, hlink, if_true, Turn.frame, Turn.emit, heardEffect]
    cases Frame.decode text <;> rfl
  · exact .of_ignored hlive (by simp [Turn.take, Turn.ofClient, hlink]) hlink

theorem reaction_failed (h : Settled c s) (hlive : s.stopped = false) (call : Nat) (f : Fault) :
    Reaction c m s (.failed call f) (s.step c m (.failed call f)).1
      (s.step c m (.failed call f)).2 := by
  by_cases hlink : s.link = .open call
  · have hwanted := h.closing_eq_false (by simp [hlink])
    have hfail := Turn.fail_eq c m.now f (t := Turn.ofClient s) hwanted h.state_ne_error
    refine .of_take hlive ?_ (.failed (.failed hlink))
    simpa [Turn.take, Turn.ofClient, hlink] using hfail
  · exact .of_ignored hlive (by simp [Turn.take, Turn.ofClient, hlink]) hlink

theorem reaction_closed (h : Settled c s) (hlive : s.stopped = false) (call : Nat) :
    Reaction c m s (.closed call) (s.step c m (.closed call)).1
      (s.step c m (.closed call)).2 := by
  by_cases hlink : s.link = .open call
  · have hwanted := h.closing_eq_false (by simp [hlink])
    have hstate : s.state ≠ .disconnected := by simp [h.state, hlink, Link.state]
    have hclosed := Turn.peerClosed_eq c m.now (t := Turn.ofClient s) hwanted hstate
    refine .of_take hlive ?_ (.closed hlink)
    simpa [Turn.take, Turn.ofClient, hlink] using hclosed
  · exact .of_ignored hlive (by simp [Turn.take, Turn.ofClient, hlink]) hlink

/-! ## Timers -/

theorem reaction_expired (h : Settled c s) (hlive : s.stopped = false) :
    Reaction c m s .expired (s.step c m .expired).1 (s.step c m .expired).2 := by
  cases hl : s.link with
  | opening call deadline =>
      by_cases hdue : deadline ≤ m.now
      · have hwanted := h.closing_eq_false (by simp [hl])
        have hrefused := Turn.refused_eq c m.now (.timeout c.connectTimeout)
          (t := Turn.ofClient s) (by simp [Turn.ofClient, hl, Link.isOpen]) hwanted
          h.state_ne_error
        refine .of_take hlive ?_ (.failed (.expired hl hdue))
        simpa [Turn.take, Turn.ofClient, hl, hdue] using hrefused
      · refine .of_ignored hlive (by simp [Turn.take, Turn.ofClient, hl, hdue]) ?_
        intro n time hn
        rw [hl] at hn
        cases hn
        omega
  | _ => exact .of_ignored hlive (by simp [Turn.take, Turn.ofClient, hl]) (by simp [Ignores, hl])

theorem reaction_ping (h : Settled c s) (hlive : s.stopped = false) :
    Reaction c m s .ping (s.step c m .ping).1 (s.step c m .ping).2 := by
  cases hdue : s.keepalive.isDue m.now with
  | false => exact .of_ignored hlive (by simp [Turn.take, Turn.ofClient, hdue]) hdue
  | true =>
      obtain ⟨call, hlink⟩ := Link.isOpen_iff.1 (h.isOpen_of_isDue hdue)
      have htake : (Turn.ofClient s).take c m .ping = (Turn.ofClient s).ping c m := by
        simp [Turn.take, Turn.ofClient, hdue]
      cases hrefusal : m.refusal .ping with
      | none =>
          have hsend := Turn.send_of_accepted c
            (t := ⟨{ s with keepalive := s.keepalive.tick m.now }, []⟩) hlink hrefusal
          refine .of_take hlive (htake.trans ?_) (.pinged hlink hdue hrefusal)
          simp only [Turn.ping, Turn.ofClient, Turn.update, hsend]
          rfl
      | some f =>
          have hwanted := h.closing_eq_false (by simp [hlink])
          have hsend := Turn.send_of_refused c
            (t := ⟨{ s with keepalive := s.keepalive.tick m.now }, []⟩) hlink hrefusal hwanted
            h.state_ne_error
          refine .of_take hlive (htake.trans ?_) (.failed (.unpinged hlink hdue hrefusal))
          simp only [Turn.ping, Turn.ofClient, Turn.update, hsend]
          rfl

theorem reaction_retry (h : Settled c s) (hlive : s.stopped = false) :
    Reaction c m s .retry (s.step c m .retry).1 (s.step c m .retry).2 := by
  cases hdue : s.retry.any (· ≤ m.now) with
  | false => exact .of_ignored hlive (by simp [Turn.take, Turn.ofClient, hdue]) hdue
  | true =>
      obtain ⟨time, htime⟩ : ∃ time, s.retry = some time := by
        cases hretry : s.retry <;> simp_all
      have hle : time ≤ m.now := by simpa [htime] using hdue
      have hlink : s.link = .idle := (h.retry (by simp [htime])).1
      have hstate : s.state = .disconnected := h.state_eq hlink
      refine .of_take hlive ?_ (.retried hlink htime hle)
      simp [Turn.take, Turn.ofClient, htime, hle, Turn.retry, Turn.update, Turn.beginConnect_eq,
        become, hstate]

/-- The list of reactions is complete. -/
theorem reaction_step (h : Settled c s) (m : Moment) (i : Input) :
    Reaction c m s i (s.step c m i).1 (s.step c m i).2 := by
  cases hlive : s.stopped with
  | true =>
      rw [step_of_stopped c m i hlive]
      exact .ignored (Or.inl hlive)
  | false =>
      cases i with
      | command command => exact reaction_command h hlive command
      | begin => exact reaction_begin hlive
      | opened call => exact reaction_opened h hlive call
      | refused call f => exact reaction_refused h hlive call f
      | frame call text => exact reaction_frame hlive call text
      | failed call f => exact reaction_failed h hlive call f
      | closed call => exact reaction_closed h hlive call
      | expired => exact reaction_expired h hlive
      | ping => exact reaction_ping h hlive
      | retry => exact reaction_retry h hlive

end Complete

end Client

end EventFeed.Connection
