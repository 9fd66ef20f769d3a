import EventFeed.Proofs.Connection.Rest

/-!
# Silence

A client that was disconnected does nothing until it is asked for a connection again, and one that
was stopped does nothing for ever, whatever its timers, its abandoned attempt or its old connection
would have brought. `note` says what the first one still makes of its inputs. The main result is
`disconnect_silences`.
-/

namespace EventFeed.Connection

namespace Client

/-- No connection, no attempt and no timer. -/
structure Silent (s : Client) : Prop where
  link : s.link = .idle
  state : s.state = .disconnected
  retry : s.retry = none
  keepalive : s.keepalive.isRunning = false
  deadlines : s.deadlines = []

/-- What a client that wants no connection makes of an input. -/
def note (s : Client) (i : Input) : Client :=
  if s.stopped then s
  else
    match i with
    | .command (.subscribe topic) => { s with topics := s.topics.insert topic }
    | .command (.unsubscribe topic) => { s with topics := s.topics.erase topic }
    | .command .stop => { s with stopped := true }
    | _ => s

/-- An answer to someone who asked, by a client that has nothing to do. -/
def Idly (e : Effect) : Prop :=
  ∃ status : Status, e = .answer status ∧ status.state = .disconnected ∧ status.pending = false

@[simp] theorem note_of_stopped {s : Client} (hstopped : s.stopped = true) (i : Input) :
    s.note i = s := by simp [note, hstopped]

@[simp] theorem closing_note (s : Client) (i : Input) : (s.note i).closing = s.closing := by
  unfold note
  split
  · rfl
  · split <;> rfl

section Steps

variable {c : Config} {m : Moment} {s s' : Client} {i : Input} {effects : List Effect}

theorem silent_of_closing (h : Settled c s) (hclosing : s.closing = true) : Silent s := by
  obtain ⟨hlink, hretry⟩ := h.closing hclosing
  have hrunning := h.isRunning_eq_false (by simp [hlink, Link.isOpen])
  have hnext : s.keepalive.next = none := by simpa [Keepalive.isRunning] using hrunning
  exact
    { link := hlink
      state := h.state_eq hlink
      retry := hretry
      keepalive := hrunning
      deadlines := by simp [deadlines, hlink, hretry, hnext] }

theorem hangUp_eq_self (h : Settled c s) (hclosing : s.closing = true) : s.hangUp = s := by
  obtain ⟨hlink, hstate, hretry, hkeepalive, -⟩ := silent_of_closing h hclosing
  rw [hangUp, Keepalive.stop_eq_self hkeepalive, ← hlink, ← hstate, ← hclosing, ← hretry]

/-- A client that wants no connection only takes notes, and answers questions. -/
theorem reaction_of_closing (h : Settled c s) (hclosing : s.closing = true)
    (hlive : s.stopped = false) (hi : ∀ token, i ≠ .command (.connect token))
    (r : Reaction c m s i s' effects) : s' = s.note i ∧ ∀ e ∈ effects, Idly e := by
  have hsilent := silent_of_closing h hclosing
  have hidle := hsilent.link
  have hquiet : s.link.release ++ s.become .disconnected = [] := by
    simp [hidle, Link.release, hsilent.state]
  cases r with
  | ignored hignored =>
      refine ⟨?_, by simp⟩
      rcases hignored with hstopped | hignored
      · simp [hstopped] at hlive
      · cases i with
        | command command => cases command <;> simp_all [Ignores]
        | _ => simp [note]
  | asked =>
      refine ⟨by simp [note], ?_⟩
      intro e he
      rw [List.mem_singleton.1 he]
      exact ⟨s.snapshot, rfl, hsilent.state, by simp [snapshot, hsilent.retry]⟩
  | hungUp =>
      rw [hquiet, hangUp_eq_self h hclosing]
      simp [note]
  | stopped =>
      rw [hquiet, hangUp_eq_self h hclosing]
      simp [note, hlive]
  | noted w =>
      refine ⟨?_, by simp⟩
      cases w <;> simp [note, hlive]
  | dialled => exact absurd rfl (hi _)
  -- All others need a call, a connection or a timer.
  | told w hlink => simp [hidle] at hlink
  | untold w hlink => simp [hidle] at hlink
  | called hlink => simp [hidle] at hlink
  | opened hlink => simp [hidle] at hlink
  | broken hlink => simp [hidle] at hlink
  | failed hfails => exact absurd hidle hfails.link_ne_idle
  | closed hlink => simp [hidle] at hlink
  | heard hlink => simp [hidle] at hlink
  | pinged hlink => simp [hidle] at hlink
  | retried hlink htime => simp [hsilent.retry] at htime

theorem step_of_closing (h : Settled c s) (hclosing : s.closing = true) (m : Moment)
    (hi : ∀ token, i ≠ .command (.connect token)) :
    (s.step c m i).1 = s.note i ∧ ∀ e ∈ (s.step c m i).2, Idly e := by
  cases hstopped : s.stopped with
  | true => simp [hstopped]
  | false => exact reaction_of_closing h hclosing hstopped hi (reaction_step h m i)

theorem run_of_closing (h : Settled c s) (hclosing : s.closing = true)
    (rest : List (Moment × Input)) (hnever : ¬ Dialled rest) :
    (s.run c rest).1 = rest.foldl (fun s x ↦ s.note x.2) s ∧ Silent (s.run c rest).1 ∧
      ∀ e ∈ (s.run c rest).2, Idly e := by
  induction rest generalizing s with
  | nil => exact ⟨rfl, silent_of_closing h hclosing, by simp⟩
  | cons x rest ih =>
      obtain ⟨m, i⟩ := x
      have hi : ∀ token, i ≠ .command (.connect token) := fun token htoken ↦
        hnever ⟨(m, i), List.mem_cons_self, token, htoken⟩
      have hlater : ¬ Dialled rest := fun ⟨x, hx, hdial⟩ ↦
        hnever ⟨x, List.mem_cons_of_mem _ hx, hdial⟩
      obtain ⟨hstep, hfirst⟩ := step_of_closing h hclosing m hi
      have hclosing' : (s.step c m i).1.closing = true := by rw [hstep, closing_note, hclosing]
      obtain ⟨hrun, hsilent, hrest⟩ := ih (h.step m i) hclosing' hlater
      rw [run_cons]
      refine ⟨by rw [hrun, hstep]; rfl, hsilent, fun e he ↦ ?_⟩
      rcases List.mem_append.1 he with he | he
      · exact hfirst e he
      · exact hrest e he

/-- Nothing happens to a client that has stopped, not even when it is asked for a connection. -/
theorem run_of_stopped (c : Config) (hstopped : s.stopped = true)
    (rest : List (Moment × Input)) : s.run c rest = (s, []) := by
  induction rest with
  | nil => rfl
  | cons x rest ih =>
      obtain ⟨m, i⟩ := x
      rw [run_cons, step_of_stopped c m i hstopped, ih]
      rfl

theorem closing_step_disconnect (h : Settled c s) (m : Moment) :
    (s.step c m (.command .disconnect)).1.closing = true := by
  cases hstopped : s.stopped with
  | true =>
      rw [step_of_stopped c m _ hstopped]
      exact h.stopped hstopped
  | false =>
      rw [step_disconnect hstopped]
      rfl

theorem stopped_step_stop (c : Config) (m : Moment) (s : Client) :
    (s.step c m (.command .stop)).1.stopped = true := by
  cases hstopped : s.stopped with
  | true =>
      rw [step_of_stopped c m _ hstopped]
      exact hstopped
  | false => rw [step_stop hstopped]

end Steps

/-- After a request to disconnect and until one for a connection, a client calls nobody, sends and
publishes nothing, and sets no timer; it only keeps its topics and answers those who ask. After
it has stopped there is not even that, and those who ask are told so. -/
theorem disconnect_silences (c : Config) :
    (∀ before m rest, ¬ Dialled rest →
      let s := after c (before ++ [(m, .command .disconnect)])
      (s.run c rest).1 = rest.foldl (fun s x ↦ s.note x.2) s ∧ Silent (s.run c rest).1 ∧
        ∀ e ∈ (s.run c rest).2, Idly e) ∧
    ∀ before m rest,
      let s := after c (before ++ [(m, .command .stop)])
      s.run c rest = (s, []) ∧ Silent s ∧ s.status = .error .stopped ∧
        s.shutdown = .error .stopped := by
  constructor
  · intro before m rest hnever
    have hclosing := closing_step_disconnect (settled_after c before) m
    rw [← after_concat] at hclosing
    exact run_of_closing (settled_after c _) hclosing rest hnever
  · intro before m rest
    have hstopped := stopped_step_stop c m (after c before)
    rw [← after_concat] at hstopped
    have h := settled_after c (before ++ [(m, .command .stop)])
    exact ⟨run_of_stopped c hstopped rest, silent_of_closing h (h.stopped hstopped),
      by simp [status, hstopped], by simp [shutdown, hstopped]⟩

/-- An attempt whose call is made. -/
def attempting : List (Moment × Input) :=
  [(.clear 0, .command (.connect none)), (.clear 0, .begin)]

/-- The call is answered after all, and every timer there ever was is due. -/
def aftermath : List (Moment × Input) :=
  [.opened 1, .command (.subscribe "cases"), .expired, .frame 1 "null", .ping, .retry,
    .command .status].map (Moment.clear 60000, ·)

theorem aftermath_is_silent :
    let s := after .default (attempting ++ [(.clear 0, .command .disconnect)])
    ¬ Dialled aftermath ∧ Silent (s.run .default aftermath).1 ∧
      ∀ e ∈ (s.run .default aftermath).2, Idly e := by
  have hnever : ¬ Dialled aftermath := by simp [Dialled, aftermath]
  have hsilent := (disconnect_silences .default).1 attempting (.clear 0) aftermath hnever
  exact ⟨hnever, hsilent.2⟩

end Client

end EventFeed.Connection
