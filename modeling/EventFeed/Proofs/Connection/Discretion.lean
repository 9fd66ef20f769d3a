import EventFeed.Proofs.Connection.Requests
import Mathlib.Data.List.TakeWhile

/-!
# Tokens do not show

`masked` takes the tokens out of inputs, clients and effects. A step of a masked client is the step
of the client, masked, so two runs that differ only in their tokens look the same from outside,
where an address is seen without its query. The main result is `tokens_unseen`.
-/

namespace EventFeed.Connection

namespace Address

theorem takeWhile_append_separator (base rest : List Char) :
    (base ++ (if '?' ∈ base then '&' else '?') :: rest).takeWhile (· ≠ '?') =
      base.takeWhile (· ≠ '?') := by
  by_cases h : '?' ∈ base
  · obtain ⟨before, after, rfl⟩ := List.append_of_mem h
    simp [List.takeWhile_append]
  · have hall : ∀ x ∈ base, decide (x ≠ '?') = true := by
      intro x hx
      rw [decide_eq_true_iff]
      rintro rfl
      exact h hx
    rw [if_neg h, List.takeWhile_append_of_pos hall, List.takeWhile_eq_self_iff.2 hall]
    simp

/-- The token comes after the first question mark, whether the base address has one or not. -/
@[simp] theorem redact_withToken (base : String) (token : Option Token) :
    redact (withToken base token) = redact base := by
  cases token with
  | none => rfl
  | some token =>
      by_cases hempty : token.secret = ""
      · rw [withToken, if_pos hempty]
      · rw [withToken, if_neg hempty, redact, String.toList_ofList, takeWhile_append_separator,
          redact]

@[simp] theorem redact_redact (url : String) : redact (redact url) = redact url := by
  simp [redact, List.takeWhile_takeWhile]

end Address

namespace Input

def masked : Input → Input
  | .command (.connect _) => .command (.connect none)
  | i => i

end Input

namespace Effect

/-- An address is seen without its query. -/
def masked : Effect → Effect
  | .open call url => .open call (Address.redact url)
  | e => e

@[simp] theorem masked_masked (e : Effect) : e.masked.masked = e.masked := by
  cases e <;> simp [masked]

end Effect

namespace Link

def masked : Link → Link
  | .waiting url => .waiting (Address.redact url)
  | l => l

@[simp] theorem masked_idle : Link.idle.masked = .idle := rfl

@[simp] theorem masked_waiting (url : String) :
    (Link.waiting url).masked = .waiting (Address.redact url) := rfl

@[simp] theorem masked_opening (call deadline : Nat) :
    (Link.opening call deadline).masked = .opening call deadline := rfl

@[simp] theorem masked_open (call : Nat) : (Link.open call).masked = .open call := rfl

@[simp] theorem masked_masked (l : Link) : l.masked.masked = l.masked := by
  cases l <;> simp

theorem masked_eq_open_iff {l : Link} {call : Nat} : l.masked = .open call ↔ l = .open call := by
  cases l <;> simp

end Link

def Client.masked (s : Client) : Client := { s with link := s.link.masked, token := none }

namespace Turn

def masked (t : Turn) : Turn := ⟨t.client.masked, t.effects.map Effect.masked⟩

section Masked

variable (c : Config) (m : Moment) (now : Nat) (t : Turn)

@[simp] theorem masked_masked : t.masked.masked = t.masked := by
  simp [masked, Client.masked]

@[simp] theorem link_masked : t.masked.client.link = t.client.link.masked := rfl

@[simp] theorem state_masked : t.masked.client.state = t.client.state := rfl

@[simp] theorem topics_masked : t.masked.client.topics = t.client.topics := rfl

@[simp] theorem closing_masked : t.masked.client.closing = t.client.closing := rfl

theorem masked_emit (e : Effect) : (t.emit e).masked = t.masked.emit e.masked := by
  simp [masked, emit]

theorem masked_become (state : State) : (t.become state).masked = t.masked.become state := by
  by_cases h : t.client.state = state
  · simp [become, masked, Client.masked, h]
  · simp [become, masked, Client.masked, Effect.masked, h, update, emit]

theorem masked_stopKeepalive : t.stopKeepalive.masked = t.masked.stopKeepalive := rfl

theorem masked_release : t.release.masked = t.masked.release := by
  cases h : t.client.link <;>
    simp [release, masked, Client.masked, Effect.masked, h, update, emit]

theorem masked_scheduleRetry :
    (t.scheduleRetry c now).masked = t.masked.scheduleRetry c now := by
  by_cases h : c.backoff.allows t.client.attempts = true <;>
    simp [scheduleRetry, masked, Client.masked, Effect.masked, h, update, emit]

theorem masked_lost : (t.lost c now).masked = t.masked.lost c now := by
  have hquiet : (t.stopKeepalive.become .disconnected).masked =
      t.masked.stopKeepalive.become .disconnected := masked_become _ _
  rw [lost, lost, ← hquiet, closing_masked]
  by_cases h : (t.stopKeepalive.become .disconnected).client.closing = true
  · rw [if_pos h, if_pos h]
  · rw [if_neg h, if_neg h, masked_scheduleRetry]

theorem masked_fail (f : Fault) : (t.fail c now f).masked = t.masked.fail c now f := by
  rw [fail, masked_lost, masked_release, masked_become, masked_stopKeepalive, masked_emit]
  rfl

theorem masked_send (frame : Frame.Control) :
    t.masked.send c m frame = ((t.send c m frame).1.masked, (t.send c m frame).2) := by
  cases h : t.client.link with
  | «open» call =>
      cases hrefusal : m.refusal frame with
      | none => simp [send, h, hrefusal, masked_emit, Effect.masked]
      | some f => simp [send, h, hrefusal, masked_fail]
  | _ => simp [send, h, masked, Client.masked]

theorem masked_sendAll (frames : List Frame.Control) :
    t.masked.sendAll c m frames =
      ((t.sendAll c m frames).1.masked, (t.sendAll c m frames).2) := by
  induction frames generalizing t with
  | nil => rfl
  | cons frame frames ih =>
      rw [sendAll, sendAll, masked_send]
      cases h : t.send c m frame with
      | mk t' sent => cases sent <;> simp [ih]

theorem masked_disconnect : (t.disconnect c now).masked = t.masked.disconnect c now := by
  rw [disconnect, masked_lost, masked_release, masked_stopKeepalive]
  rfl

theorem masked_tell (frame : Frame.Control) (undelivered : Telemetry.Entry) :
    (t.tell c m frame undelivered).masked = t.masked.tell c m frame undelivered := by
  rw [tell, tell, state_masked]
  by_cases h : t.client.state = .connected
  · rw [if_pos h, if_pos h, masked_send]
    cases hsend : t.send c m frame with
    | mk t' sent => cases sent <;> simp [masked_emit, Effect.masked]
  · rw [if_neg h, if_neg h]

theorem masked_openCall (url : String) :
    (t.openCall c m url).masked = t.masked.openCall c m (Address.redact url) := by
  simp [openCall, masked_emit]
  rfl

theorem masked_opened (call : Nat) : (t.opened c m call).masked = t.masked.opened c m call := by
  have hjoined :
      ((t.update fun s ↦ { s with link := .open call, attempts := 0 }).become .connected).masked =
        (t.masked.update fun s ↦ { s with link := .open call, attempts := 0 }).become .connected :=
    masked_become _ _
  rw [opened, opened, ← hjoined]
  generalize (t.update fun s ↦ { s with link := .open call, attempts := 0 }).become .connected =
    joined
  rw [topics_masked, masked_sendAll]
  cases joined.sendAll c m joined.client.topics.replay with
  | mk t' sent => cases sent <;> rfl

theorem masked_refused (f : Fault) : (t.refused c now f).masked = t.masked.refused c now f :=
  masked_fail c now _ f

theorem masked_frame (text : String) : (t.frame text).masked = t.masked.frame text := by
  cases h : Frame.decode text <;> simp [frame, h, masked_emit, Effect.masked]

theorem masked_peerClosed : (t.peerClosed c now).masked = t.masked.peerClosed c now :=
  masked_lost c now _

theorem masked_ping : (t.ping c m).masked = t.masked.ping c m := by
  have hsend :=
    masked_send c m (t.update fun s ↦ { s with keepalive := s.keepalive.tick m.now }) .ping
  exact (congrArg Prod.fst hsend).symm

/-- A new attempt takes its token to an address, and there it is cut off. -/
theorem masked_beginConnect : (t.masked.beginConnect c).masked = (t.beginConnect c).masked := by
  rw [beginConnect, masked_become, beginConnect, masked_become]
  congr 1
  simp [masked, update, Client.masked, Link.masked, stopKeepalive]

theorem masked_connect (token : Option Token) :
    (t.masked.connect c none).masked = (t.connect c token).masked := by
  have hdial := masked_beginConnect c
    (t.update fun s ↦ { s with closing := false, retry := none, attempts := 0, token })
  cases h : t.client.link with
  | «open» call => simp [connect, link_masked, h]
  | _ =>
      simp only [connect, link_masked, h]
      exact hdial

theorem masked_retry : (t.masked.retry c).masked = (t.retry c).masked :=
  masked_beginConnect c (t.update fun s ↦ { s with retry := none })

theorem masked_command {command : Command} (h : ∀ token, command ≠ .connect token) :
    (t.command c m command).masked = t.masked.command c m command := by
  cases command with
  | connect token => exact absurd rfl (h token)
  | disconnect => exact masked_disconnect c m.now t
  | subscribe topic => exact masked_tell c m _ (.subscribe topic) (Report.subscribeLost topic)
  | unsubscribe topic => exact masked_tell c m _ (.unsubscribe topic) (Report.unsubscribeLost topic)
  | status => exact masked_emit t (.answer t.client.snapshot)
  | stop =>
      rw [command, command, ← masked_disconnect]
      rfl

variable {t} in
theorem masked_eq_of_eq {u : Turn} (h : t.masked = u) : u.masked = t.masked := by
  rw [← h, masked_masked]

/-- An input that concerns the client concerns the masked client. -/
theorem masked_ite {p q : Prop} [Decidable p] [Decidable q] (hpq : q ↔ p) {u u' : Turn}
    (h : u'.masked = u.masked) :
    (if q then u' else t.masked).masked = (if p then u else t).masked := by
  by_cases hp : p
  · rw [if_pos (hpq.2 hp), if_pos hp, h]
  · rw [if_neg (mt hpq.1 hp), if_neg hp, masked_masked]

/-- A turn of a masked client is the turn of the client, masked. -/
theorem masked_take (i : Input) : (t.masked.take c m i.masked).masked = (t.take c m i).masked := by
  have hopen : ∀ n, t.masked.client.link = .open n ↔ t.client.link = .open n :=
    fun _ ↦ Link.masked_eq_open_iff
  cases i with
  | command command =>
      by_cases h : ∃ token, command = .connect token
      · obtain ⟨token, rfl⟩ := h
        exact masked_connect c t token
      · have hcommand := masked_eq_of_eq (masked_command c m t (not_exists.1 h))
        cases command with
        | connect token => exact absurd ⟨token, rfl⟩ h
        | _ => exact hcommand
  | begin =>
      cases h : t.client.link with
      | waiting url =>
          have hcall := masked_eq_of_eq (masked_openCall c m t url)
          simpa [Input.masked, take, h] using hcall
      | _ => simp [Input.masked, take, h]
  | opened n =>
      cases h : t.client.link with
      | opening call deadline =>
          have hopened := masked_ite t Iff.rfl (p := n = call)
            (masked_eq_of_eq (masked_opened c m t call))
          simpa only [Input.masked, take, link_masked, h, Link.masked_opening] using hopened
      | _ => simp [Input.masked, take, h]
  | refused n f =>
      cases h : t.client.link with
      | opening call deadline =>
          have hrefused := masked_ite t Iff.rfl (p := n = call)
            (masked_eq_of_eq (masked_refused c m.now t f))
          simpa only [Input.masked, take, link_masked, h, Link.masked_opening] using hrefused
      | _ => simp [Input.masked, take, h]
  | expired =>
      cases h : t.client.link with
      | opening call deadline =>
          have hexpired := masked_ite t Iff.rfl (p := deadline ≤ m.now)
            (masked_eq_of_eq (masked_refused c m.now t (.timeout c.connectTimeout)))
          simpa only [Input.masked, take, link_masked, h, Link.masked_opening] using hexpired
      | _ => simp [Input.masked, take, h]
  | frame n text => exact masked_ite t (hopen n) (masked_eq_of_eq (masked_frame t text))
  | failed n f => exact masked_ite t (hopen n) (masked_eq_of_eq (masked_fail c m.now t f))
  | closed n => exact masked_ite t (hopen n) (masked_eq_of_eq (masked_peerClosed c m.now t))
  | ping => exact masked_ite t Iff.rfl (masked_eq_of_eq (masked_ping c m t))
  | retry => exact masked_ite t Iff.rfl (masked_retry c t)

end Masked

end Turn

namespace Client

variable {c : Config} {m : Moment} {s s' : Client} {i i' : Input}

/-- Clients that differ in tokens only, given inputs that do, still do after them. -/
theorem step_alike (hs : s.masked = s'.masked) (hi : i.masked = i'.masked) :
    (s.step c m i).1.masked = (s'.step c m i').1.masked ∧
      (s.step c m i).2.map Effect.masked = (s'.step c m i').2.map Effect.masked := by
  have hstopped : s.masked.stopped = s'.masked.stopped := by rw [hs]
  replace hstopped : s.stopped = s'.stopped := hstopped
  cases h : s.stopped with
  | true => simp [step, h, hstopped ▸ h, hs]
  | false =>
      have hbefore : (Turn.ofClient s).masked = (Turn.ofClient s').masked := by
        simp [Turn.masked, Turn.ofClient, hs]
      have htake : ((Turn.ofClient s).take c m i).masked =
          ((Turn.ofClient s').take c m i').masked := by
        rw [← Turn.masked_take, hbefore, hi, Turn.masked_take]
      rw [step, step, h, ← hstopped, h]
      exact ⟨congrArg Turn.client htake, congrArg Turn.effects htake⟩

/-- What can be seen of a run, with the times. -/
def seen (c : Config) (s : Client) (inputs : List (Moment × Input)) : List (Nat × Effect) :=
  collect (fun m s i ↦ (s.step c m i).2.map fun e ↦ (m.now, e.masked)) c s inputs

/-- Inputs with what an onlooker knows of them. -/
def tokenless (inputs : List (Moment × Input)) : List (Moment × Input) :=
  inputs.map (Prod.map id Input.masked)

theorem run_alike (hs : s.masked = s'.masked) {inputs inputs' : List (Moment × Input)}
    (h : tokenless inputs = tokenless inputs') :
    (s.run c inputs).1.masked = (s'.run c inputs').1.masked ∧
      seen c s inputs = seen c s' inputs' := by
  induction inputs generalizing s s' inputs' with
  | nil =>
      obtain rfl : inputs' = [] := by simpa [tokenless] using h.symm
      exact ⟨hs, rfl⟩
  | cons x inputs ih =>
      cases inputs' with
      | nil => simp [tokenless] at h
      | cons x' inputs' =>
          obtain ⟨m, i⟩ := x
          obtain ⟨m', i'⟩ := x'
          obtain ⟨hhead, htail⟩ := List.cons.inj h
          obtain ⟨rfl, hi⟩ := Prod.mk.inj hhead
          obtain ⟨hstep, heffects⟩ := step_alike hs hi
          obtain ⟨hrun, hseen⟩ := ih hstep htail
          refine ⟨hrun, ?_⟩
          have hnow : ∀ effects : List Effect, (effects.map fun e ↦ (m.now, e.masked)) =
              (effects.map Effect.masked).map (Prod.mk m.now) := fun effects ↦ by
            rw [List.map_map]
            rfl
          rw [seen, collect_cons, hnow, heffects, ← hnow]
          exact congrArg _ hseen

end Client

/-- Gives a request this token. -/
def Input.withToken (token : Option Token) : Input → Input
  | .command (.connect _) => .command (.connect token)
  | i => i

@[simp] theorem Input.masked_withToken (token : Option Token) (i : Input) :
    (i.withToken token).masked = i.masked := by
  cases i with
  | command command => cases command <;> rfl
  | _ => rfl

/-- Callers, a transport and a clock that go by what they have seen so far. The tokens are not
theirs. -/
abbrev Surroundings := List (Nat × Effect) → Moment × Input

/-- The first inputs that a client gets from its surroundings, each with its own token. -/
def Surroundings.inputs (next : Surroundings) (c : Config) (tokens : Nat → Option Token) :
    Nat → List (Moment × Input)
  | 0 => []
  | n + 1 =>
    let past := next.inputs c tokens n
    past ++ [Prod.map id (Input.withToken (tokens n)) (next (Client.seen c (.initial c) past))]

theorem Surroundings.tokenless_inputs (next : Surroundings) (c : Config)
    (tokens tokens' : Nat → Option Token) (n : Nat) :
    Client.tokenless (next.inputs c tokens n) = Client.tokenless (next.inputs c tokens' n) := by
  induction n with
  | zero => rfl
  | succ n ih =>
      have hseen : Client.seen c (.initial c) (next.inputs c tokens n) =
          Client.seen c (.initial c) (next.inputs c tokens' n) := (Client.run_alike rfl ih).2
      have hnew : ∀ (past : List (Moment × Input)) (token : Option Token) (x : Moment × Input),
          Client.tokenless (past ++ [Prod.map id (Input.withToken token) x]) =
            Client.tokenless past ++ Client.tokenless [x] := by
        intro past token x
        simp [Client.tokenless, Prod.map]
      rw [inputs, inputs, hnew, hnew, ih, hseen]

namespace Client

theorem redact_of_mem_history (c : Config) (inputs : List (Moment × Input)) :
    ∀ call url, .open call url ∈ history c inputs → Address.redact url = Address.redact c.url := by
  refine after_induction c (motive := fun _ _ effects ↦ ∀ call url, .open call url ∈ effects →
    Address.redact url = Address.redact c.url) (by simp) ?_ inputs
  intro inputs m i s' effects h r _ ih call url hopen
  rcases List.mem_append.1 hopen with hopen | hopen
  · exact ih call url hopen
  · have hmem : (call, url) ∈ opens effects := List.mem_filterMap.2 ⟨_, hopen, rfl⟩
    rcases opens_reaction r with hnone | ⟨-, url', hlink, hopens⟩
    · simp [hnone] at hmem
    · rw [hopens, List.mem_singleton, Prod.mk.injEq] at hmem
      rw [hmem.2, (tracked_after c inputs).waiting url' hlink, Address.redact_withToken]

/-- Nobody learns of the tokens. Runs on inputs that differ in tokens only look the same, and so do
two clients in the same surroundings; and no address that a client opens has a token in what stands
before its query. -/
theorem tokens_unseen (c : Config) :
    (∀ inputs inputs', tokenless inputs = tokenless inputs' →
      seen c (.initial c) inputs = seen c (.initial c) inputs' ∧
        (after c inputs).status = (after c inputs').status ∧
        (after c inputs).shutdown = (after c inputs').shutdown) ∧
    (∀ (next : Surroundings) (tokens tokens' : Nat → Option Token) (n : Nat),
      seen c (.initial c) (next.inputs c tokens n) =
        seen c (.initial c) (next.inputs c tokens' n)) ∧
    ∀ inputs call url, .open call url ∈ history c inputs →
      Address.redact url = Address.redact c.url := by
  refine ⟨?_, ?_, redact_of_mem_history c⟩
  · intro inputs inputs' h
    obtain ⟨hafter, hseen⟩ := run_alike (c := c) (s := .initial c) rfl h
    replace hafter : (after c inputs).masked = (after c inputs').masked := hafter
    have hstatus : (after c inputs).masked.status = (after c inputs').masked.status := by
      rw [hafter]
    have hshutdown : (after c inputs).masked.shutdown = (after c inputs').masked.shutdown := by
      rw [hafter]
    exact ⟨hseen, hstatus, hshutdown⟩
  · intro next tokens tokens' n
    exact (run_alike rfl (next.tokenless_inputs c tokens tokens' n)).2

/-- A request and the call that it leads to. -/
def dialling (token : Option Token) : List (Moment × Input) :=
  [(.clear 0, .command (.connect token)), (.clear 0, .begin)]

theorem dialling_seen_alike :
    opens (history .default (dialling (some ⟨"a"⟩))) ≠ opens (history .default (dialling none)) ∧
      seen .default (.initial .default) (dialling (some ⟨"a"⟩)) =
        seen .default (.initial .default) (dialling none) := by
  have halike : tokenless (dialling (some ⟨"a"⟩)) = tokenless (dialling none) := by
    simp [tokenless, dialling, Input.masked]
  constructor
  · decide
  · exact ((tokens_unseen .default).1 _ _ halike).1

end Client

end EventFeed.Connection
