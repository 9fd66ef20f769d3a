import EventFeed.Proofs.Connection.Reaction
import Mathlib.Data.List.Induction

/-!
# Clients at rest

Every reaction leaves the client settled, so a client is settled after every run. `after_induction`
is the induction over runs on the reactions of settled clients. The main result is `atRest_after`:
link, state, timers and counter agree whenever the client waits, and it never waits in vain.
-/

namespace EventFeed.Connection

namespace Settled

variable {c : Config} {s : Client}

theorem phase (h : Settled c s) :
    (s.link = .idle ∧ s.state = .disconnected) ∨
      (s.link.isOpening = true ∧ s.state = .connecting) ∨
        (s.link.isOpen = true ∧ s.state = .connected) := by
  rw [h.state]
  cases s.link <;> simp [Link.state, Link.isOpen, Link.isOpening]

theorem initial (c : Config) : Settled c (.initial c) where
  state := rfl
  period := rfl
  keepalive := by simp [Client.initial, Keepalive.isRunning, Keepalive.ofDuration, Link.isOpen]
  retry := by simp [Client.initial]
  attempts := by simp [Client.initial]
  closing := by simp [Client.initial]
  budget := Nat.zero_le _
  stopped := by simp [Client.initial]

theorem lose {now : Nat} (hperiod : s.keepalive.period = c.keepalive)
    (hwanted : s.closing = false) (hlive : s.stopped = false) (hretry : s.retry = none)
    (hbudget : s.attempts ≤ c.backoff.maxAttempts) : Settled c (s.lose c now) where
  state := by simp [Link.state]
  period := by simpa using hperiod
  keepalive := by simp [Keepalive.isRunning, Link.isOpen]
  retry := by
    intro hsome
    refine ⟨by simp, by simpa using hwanted, ?_⟩
    by_cases hallows : c.backoff.allows s.attempts = true <;>
      simp_all [Client.lose]
  attempts := by simp [Link.isOpen]
  closing := by simp [hwanted]
  budget := by
    by_cases hallows : c.backoff.allows s.attempts = true
    · have hlt : s.attempts < c.backoff.maxAttempts := by simpa [Backoff.allows] using hallows
      simpa [Client.lose, hallows] using Nat.succ_le_of_lt hlt
    · simpa [Client.lose, hallows] using hbudget
  stopped := by simp [hlive]

theorem lose_of_ne_idle (h : Settled c s) (hlink : s.link ≠ .idle) (now : Nat) :
    Settled c (s.lose c now) :=
  .lose h.period (h.closing_eq_false hlink) (h.stopped_eq_false hlink) (h.retry_eq_none hlink)
    h.budget

theorem withTopics (h : Settled c s) (topics : Topics) : Settled c { s with topics } :=
  ⟨h.state, h.period, h.keepalive, h.retry, h.attempts, h.closing, h.budget, h.stopped⟩

theorem dial (hperiod : s.keepalive.period = c.keepalive) (hwanted : s.closing = false)
    (hlive : s.stopped = false) (hretry : s.retry = none)
    (hbudget : s.attempts ≤ c.backoff.maxAttempts) : Settled c (s.dial c) where
  state := rfl
  period := hperiod
  keepalive := by simp [Client.dial, Keepalive.isRunning, Link.isOpen]
  retry := by simp [Client.dial, hretry]
  attempts := by simp [Client.dial, Link.isOpen]
  closing := by simp [Client.dial, hwanted]
  budget := hbudget
  stopped := by simp [Client.dial, hlive]

theorem hangUp (h : Settled c s) : Settled c s.hangUp where
  state := rfl
  period := h.period
  keepalive := by simp [Client.hangUp, Keepalive.isRunning, Link.isOpen]
  retry := by simp [Client.hangUp]
  attempts := by simp [Client.hangUp, Link.isOpen]
  closing := by simp [Client.hangUp]
  budget := h.budget
  stopped := by simp [Client.hangUp]

theorem accept (h : Settled c s) {call deadline : Nat} (hlink : s.link = .opening call deadline)
    (now : Nat) : Settled c { s.accept call with keepalive := s.keepalive.start now } := by
  have hne : s.link ≠ .idle := by simp [hlink]
  have hresting := h.isRunning_eq_false (by simp [hlink, Link.isOpen])
  refine
    { state := rfl
      period := by simpa using h.period
      keepalive := ?_
      retry := by simp [Client.accept, h.retry_eq_none hne]
      attempts := by simp [Client.accept]
      closing := by simp [Client.accept, h.closing_eq_false hne]
      budget := Nat.zero_le _
      stopped := by simp [Client.accept, h.stopped_eq_false hne] }
  simp [Keepalive.isRunning_start, hresting, h.period, Client.accept, Link.isOpen]

theorem reaction (h : Settled c s) {m : Moment} {i : Input} {s' : Client}
    {effects : List Effect} (r : Client.Reaction c m s i s' effects) : Settled c s' := by
  cases r with
  | ignored => exact h
  | asked => exact h
  | heard => exact h
  | dialled hlink hlive => exact .dial h.period rfl hlive rfl (Nat.zero_le _)
  | hungUp => exact h.hangUp
  | stopped =>
      have hdone := h.hangUp
      exact ⟨hdone.state, hdone.period, hdone.keepalive, hdone.retry, hdone.attempts,
        hdone.closing, hdone.budget, fun _ ↦ rfl⟩
  | noted => exact h.withTopics _
  | told => exact h.withTopics _
  | untold w hlink => exact (h.withTopics _).lose_of_ne_idle (by simp [hlink]) m.now
  | called hlink =>
      have hne : s.link ≠ .idle := by simp [hlink]
      have hstate : s.state = .connecting := h.state_eq hlink
      refine ⟨hstate, h.period, ?_, ?_, ?_, ?_, h.budget, ?_⟩
      · simpa [hlink, Link.isOpen] using h.keepalive
      · simp [h.retry_eq_none hne]
      · simp [Link.isOpen]
      · simp [h.closing_eq_false hne]
      · simp [h.stopped_eq_false hne]
  | opened hlink => exact h.accept hlink m.now
  | broken hlink =>
      have hne : s.link ≠ .idle := by simp [hlink]
      exact .lose h.period (h.closing_eq_false hne) (h.stopped_eq_false hne) (h.retry_eq_none hne)
        (Nat.zero_le _)
  | failed hfails => exact h.lose_of_ne_idle hfails.link_ne_idle m.now
  | closed hlink => exact h.lose_of_ne_idle (by simp [hlink]) m.now
  | pinged hlink =>
      refine ⟨h.state, h.period, ?_, h.retry, h.attempts, h.closing, h.budget, h.stopped⟩
      simpa using h.keepalive
  | retried hlink htime =>
      have hwanted : s.closing = false := (h.retry (by simp [htime])).2.1
      have hlive : s.stopped = false := by
        cases hs : s.stopped with
        | false => rfl
        | true => simp [h.stopped hs] at hwanted
      exact .dial h.period hwanted hlive rfl h.budget

theorem step (h : Settled c s) (m : Moment) (i : Input) : Settled c (s.step c m i).1 :=
  h.reaction (Client.reaction_step h m i)

end Settled

namespace Client

variable (c : Config)

@[simp] theorem run_nil (s : Client) : s.run c [] = (s, []) := rfl

theorem run_cons (s : Client) (m : Moment) (i : Input) (inputs : List (Moment × Input)) :
    s.run c ((m, i) :: inputs) =
      (((s.step c m i).1.run c inputs).1,
        (s.step c m i).2 ++ ((s.step c m i).1.run c inputs).2) := rfl

theorem run_append (s : Client) (first rest : List (Moment × Input)) :
    s.run c (first ++ rest) =
      (((s.run c first).1.run c rest).1,
        (s.run c first).2 ++ ((s.run c first).1.run c rest).2) := by
  induction first generalizing s with
  | nil => simp
  | cons input first ih =>
      obtain ⟨m, i⟩ := input
      rw [List.cons_append, run_cons, run_cons, ih]
      simp [List.append_assoc]

/-- The client after some inputs, from the start. -/
def after (inputs : List (Moment × Input)) : Client := ((initial c).run c inputs).1

def history (inputs : List (Moment × Input)) : List Effect := ((initial c).run c inputs).2

@[simp] theorem after_nil : after c [] = initial c := rfl

theorem after_append (first rest : List (Moment × Input)) :
    after c (first ++ rest) = ((after c first).run c rest).1 := by
  rw [after, run_append, after]

theorem history_append (first rest : List (Moment × Input)) :
    history c (first ++ rest) = history c first ++ ((after c first).run c rest).2 := by
  rw [history, run_append, history, after]

theorem after_concat (inputs : List (Moment × Input)) (m : Moment) (i : Input) :
    after c (inputs ++ [(m, i)]) = ((after c inputs).step c m i).1 := by
  rw [after_append, run_cons, run_nil]

theorem history_concat (inputs : List (Moment × Input)) (m : Moment) (i : Input) :
    history c (inputs ++ [(m, i)]) = history c inputs ++ ((after c inputs).step c m i).2 := by
  rw [history_append, run_cons, run_nil, List.append_nil]

theorem settled_after (inputs : List (Moment × Input)) : Settled c (after c inputs) := by
  induction inputs using List.reverseRecOn with
  | nil => exact .initial c
  | append_singleton inputs input ih =>
      obtain ⟨m, i⟩ := input
      rw [after_concat]
      exact ih.step m i

/-- Induction over runs: what holds at the start and is kept by every reaction of a settled client
holds of every run. -/
theorem after_induction {motive : List (Moment × Input) → Client → List Effect → Prop}
    (start : motive [] (initial c) [])
    (next : ∀ inputs m i s' effects, Settled c (after c inputs) →
      Reaction c m (after c inputs) i s' effects → after c (inputs ++ [(m, i)]) = s' →
      motive inputs (after c inputs) (history c inputs) →
      motive (inputs ++ [(m, i)]) s' (history c inputs ++ effects))
    (inputs : List (Moment × Input)) : motive inputs (after c inputs) (history c inputs) := by
  induction inputs using List.reverseRecOn with
  | nil => exact start
  | append_singleton inputs input ih =>
      obtain ⟨m, i⟩ := input
      have h := settled_after c inputs
      rw [history_concat]
      have r := reaction_step h m i
      rw [← after_concat] at r
      exact next inputs m i _ _ h r rfl ih

/-- Whether a connection was asked for. -/
def Dialled (inputs : List (Moment × Input)) : Prop :=
  ∃ x ∈ inputs, ∃ token, x.2 = .command (.connect token)

/-- Why a client has neither an attempt nor a connection: nobody asked for one, nobody wants one
any more, another try is to come, or there have been enough. -/
def Excused (c : Config) (inputs : List (Moment × Input)) (s : Client) : Prop :=
  ¬ Dialled inputs ∨ s.closing = true ∨ s.retry.isSome = true ∨
    s.attempts = c.backoff.maxAttempts

theorem excused_lose {s : Client} (h : s.attempts ≤ c.backoff.maxAttempts)
    (inputs : List (Moment × Input)) (now : Nat) : Excused c inputs (s.lose c now) := by
  by_cases hallows : c.backoff.allows s.attempts = true
  · exact Or.inr (Or.inr (Or.inl (by simp [lose, hallows])))
  · have hge : c.backoff.maxAttempts ≤ s.attempts := by simpa [Backoff.allows] using hallows
    have heq : (s.lose c now).attempts = s.attempts := by simp [lose, hallows]
    exact Or.inr (Or.inr (Or.inr (heq.trans (Nat.le_antisymm h hge))))

theorem Excused.concat {inputs : List (Moment × Input)} {s : Client} {m : Moment} {i : Input}
    (h : Excused c inputs s) (hi : ∀ token, i ≠ .command (.connect token)) :
    Excused c (inputs ++ [(m, i)]) s := by
  refine h.imp_left fun hnever ↦ ?_
  rintro ⟨x, hx, token, htoken⟩
  rcases List.mem_append.1 hx with hx | hx
  · exact hnever ⟨x, hx, token, htoken⟩
  · rw [List.mem_singleton.1 hx] at htoken
    exact hi token htoken

/-- An idle client that ignores a request for a connection has been stopped. -/
theorem Excused.ignored {inputs : List (Moment × Input)} {s : Client} {m : Moment} {i : Input}
    (h : Excused c inputs s) (hs : Settled c s) (hidle : s.link = .idle)
    (hi : s.stopped = true ∨ s.Ignores m i) : Excused c (inputs ++ [(m, i)]) s := by
  by_cases hconnect : ∃ token, i = .command (.connect token)
  · obtain ⟨token, rfl⟩ := hconnect
    rcases hi with hstopped | hopen
    · exact Or.inr (Or.inl (hs.stopped hstopped))
    · simp [Ignores, hidle, Link.isOpen] at hopen
  · exact h.concat c (not_exists.1 hconnect)

theorem excused_after (inputs : List (Moment × Input)) :
    (after c inputs).link = .idle → Excused c inputs (after c inputs) := by
  refine after_induction c
    (motive := fun inputs s _ ↦ s.link = .idle → Excused c inputs s) ?_ ?_ inputs
  · intro _
    exact Or.inl (by simp [Dialled])
  · intro inputs m i s' effects h r _ ih hidle
    generalize after c inputs = s at h r ih
    -- Only a loss makes a client idle that was not told to be; the others leave the link alone.
    cases r with
    | ignored hi => exact (ih hidle).ignored c h hidle hi
    | asked => exact (ih hidle).concat c (by simp)
    | noted w => exact (ih hidle).concat c (by cases w <;> simp)
    | hungUp => exact Or.inr (Or.inl rfl)
    | stopped => exact Or.inr (Or.inl rfl)
    | untold => exact excused_lose c (h.withTopics _).budget _ m.now
    | broken => exact excused_lose c (Nat.zero_le _) _ m.now
    | failed => exact excused_lose c h.budget _ m.now
    | closed => exact excused_lose c h.budget _ m.now
    | told w hlink => simp [hlink] at hidle
    | heard hlink => simp [hlink] at hidle
    | pinged hlink => simp [hlink] at hidle
    | dialled => simp [dial] at hidle
    | called => simp at hidle
    | opened => simp [accept] at hidle
    | retried => simp [dial] at hidle

/-- What holds whenever a client waits for its next input, after the given ones. -/
structure AtRest (c : Config) (inputs : List (Moment × Input)) (s : Client) : Prop where
  phase :
    (s.link = .idle ∧ s.state = .disconnected) ∨
      (s.link.isOpening = true ∧ s.state = .connecting) ∨
        (s.link.isOpen = true ∧ s.state = .connected)
  period : s.keepalive.period = c.keepalive
  keepalive :
    s.keepalive.isRunning = true ↔ s.link.isOpen = true ∧ s.keepalive.period.nanos ≠ 0
  retry :
    s.retry.isSome = true →
      s.link = .idle ∧ s.closing = false ∧ 1 ≤ s.attempts ∧
        s.attempts ≤ c.backoff.maxAttempts
  attempts : s.link.isOpen = true → s.attempts = 0
  closing :
    s.closing = true → s.link = .idle ∧ s.retry = none ∧ s.keepalive.isRunning = false
  budget : s.attempts ≤ c.backoff.maxAttempts
  excused : s.link = .idle → Excused c inputs s

/-- Link, state, timers and counter agree after every run, and a client that has nothing to do has
a reason for it. -/
theorem atRest_after (inputs : List (Moment × Input)) : AtRest c inputs (after c inputs) := by
  have h := settled_after c inputs
  have hkeepalive := h.keepalive
  rw [← h.period] at hkeepalive
  refine
    { phase := h.phase
      period := h.period
      keepalive := hkeepalive
      retry := fun hsome ↦ ?_
      attempts := h.attempts
      closing := fun hclosing ↦ ?_
      budget := h.budget
      excused := excused_after c inputs }
  · obtain ⟨hidle, hwanted, hpos⟩ := h.retry hsome
    exact ⟨hidle, hwanted, hpos, h.budget⟩
  · obtain ⟨hidle, hnone⟩ := h.closing hclosing
    exact ⟨hidle, hnone, h.isRunning_eq_false (by simp [hidle, Link.isOpen])⟩

end Client

end EventFeed.Connection
