import EventFeed.Proofs.Connection.Retries

/-!
# Timed runs

Runs under a clock that stops at every deadline of the client, and does not move while a call is
still to be made (`Timed`). In such a run no deadline is ever in the past, so a timer acts exactly
when it is due. `OnTime` says what follows for calls: one that the client makes by itself comes
exactly when the loss before it said, and one that is never answered fails exactly at its deadline,
in the way of a call that is refused.
-/

namespace EventFeed.Connection

/-- The commands that put an end to what the client would do by itself. -/
def Input.Interrupts : Input → Prop
  | .command (.connect _) | .command .disconnect | .command .stop => True
  | _ => False

namespace Keepalive

variable {k : Keepalive} {now d : Nat}

theorem le_next_start (h : ∀ d, k.next = some d → now ≤ d) (hd : (k.start now).next = some d) :
    now ≤ d := by
  simp only [start] at hd
  split at hd
  · exact h d hd
  · cases hd
    exact Nat.le_add_right now _

theorem le_next_tick (h : ∀ d, k.next = some d → now ≤ d) (hd : (k.tick now).next = some d) :
    now ≤ d := by
  obtain ⟨due, hdue, rfl⟩ := Option.map_eq_some_iff.1 hd
  have hle := h due hdue
  split <;> omega

/-- A tick that is taken in time is followed by a later one. -/
theorem lt_next_tick (h : ∀ d, k.next = some d → now ≤ d) (hperiod : k.period.nanos ≠ 0)
    (hd : (k.tick now).next = some d) : now < d := by
  obtain ⟨due, hdue, rfl⟩ := Option.map_eq_some_iff.1 hd
  have hle := h due hdue
  have hpos := Time.Duration.ceilMillis_pos hperiod
  split <;> omega

theorem isDue_eq_false (h : ∀ d, k.next = some d → now < d) : k.isDue now = false := by
  cases hnext : k.next with
  | none => simp [isDue, hnext]
  | some d => simp [isDue, hnext, h d hnext]

end Keepalive

def Undisturbed (inputs : List (Moment × Input)) : Prop := ∀ x ∈ inputs, ¬ x.2.Interrupts

namespace Client

/-- Inputs that a client takes from a given time on, each at the time of the clock, and what the
clock shows after them. -/
inductive Timed (c : Config) (s : Client) (start : Nat) : List (Moment × Input) → Nat → Prop
  | start : Timed c s start [] start
  | pass {inputs : List (Moment × Input)} {now later : Nat} (h : Timed c s start inputs now)
      (hle : now ≤ later) (hcalled : ∀ url, (s.run c inputs).1.link ≠ .waiting url)
      (hstops : ∀ d ∈ (s.run c inputs).1.deadlines, later ≤ d) : Timed c s start inputs later
  | take {inputs : List (Moment × Input)} {m : Moment} (h : Timed c s start inputs m.now)
      (i : Input) : Timed c s start (inputs ++ [(m, i)]) m.now

/-- When the inputs of a run make calls. -/
def openTimes (c : Config) (s : Client) (inputs : List (Moment × Input)) : List Nat :=
  collect (fun m s i ↦ (opens (s.step c m i).2).map fun _ ↦ m.now) c s inputs

/-- No deadline is in the past. -/
def Punctual (s : Client) (now : Nat) : Prop := ∀ d ∈ s.deadlines, now ≤ d

section Steps

variable {c : Config} {m : Moment} {s s' : Client} {i : Input} {effects : List Effect}
  {inputs : List (Moment × Input)} {now start d : Nat}

theorem mem_deadlines : d ∈ s.deadlines ↔
    s.keepalive.next = some d ∨ s.retry = some d ∨ ∃ call, s.link = .opening call d := by
  cases hlink : s.link <;> simp [deadlines, hlink, eq_comm]

theorem punctual_iff : s.Punctual now ↔
    (∀ d, s.keepalive.next = some d → now ≤ d) ∧ (∀ d, s.retry = some d → now ≤ d) ∧
      ∀ call d, s.link = .opening call d → now ≤ d := by
  simp only [Punctual, mem_deadlines]
  constructor
  · exact fun h ↦ ⟨fun d hd ↦ h d (.inl hd), fun d hd ↦ h d (.inr (.inl hd)),
      fun call d hd ↦ h d (.inr (.inr ⟨call, hd⟩))⟩
  · rintro ⟨hkeepalive, hretry, hlink⟩ d (hd | hd | ⟨call, hd⟩)
    · exact hkeepalive d hd
    · exact hretry d hd
    · exact hlink call d hd

theorem Punctual.lose (h : s.Punctual now) : (s.lose c now).Punctual now := by
  obtain ⟨-, hretry, -⟩ := punctual_iff.1 h
  refine punctual_iff.2 ⟨by simp, ?_, by simp⟩
  by_cases hallows : c.backoff.allows s.attempts = true
  · simp [Client.lose, hallows]
  · simpa [Client.lose, hallows] using hretry

theorem punctual_dial : (s.dial c).Punctual now ↔ ∀ d, s.retry = some d → now ≤ d := by
  simp [punctual_iff, dial]

theorem Punctual.reaction (h : s.Punctual m.now) (r : Reaction c m s i s' effects) :
    s'.Punctual m.now := by
  obtain ⟨hkeepalive, hretry, hlink⟩ := punctual_iff.1 h
  cases r with
  | ignored => exact h
  | asked => exact h
  | heard => exact h
  | noted => exact h
  | told => exact h
  | dialled => exact punctual_dial.2 (by simp)
  | retried => exact punctual_dial.2 (by simp)
  | hungUp => exact punctual_iff.2 (by simp [hangUp])
  | stopped => exact punctual_iff.2 (by simp [hangUp])
  | untold => exact Punctual.lose (s := { s with topics := _ }) h
  | failed => exact h.lose
  | closed => exact h.lose
  | broken =>
      exact Punctual.lose (s := s.accept _)
        (punctual_iff.2 ⟨hkeepalive, hretry, by simp [accept]⟩)
  | called => exact punctual_iff.2 ⟨hkeepalive, hretry, by simp⟩
  | opened =>
      exact punctual_iff.2
        ⟨fun d ↦ Keepalive.le_next_start hkeepalive, hretry, by simp [accept]⟩
  | pinged =>
      exact punctual_iff.2 ⟨fun d ↦ Keepalive.le_next_tick hkeepalive, hretry, hlink⟩

end Steps

section Runs

variable {c : Config} {m : Moment} {s s' : Client} {i : Input} {effects : List Effect}
  {inputs : List (Moment × Input)} {now start due : Nat}

theorem settled_run (h : Settled c s) (inputs : List (Moment × Input)) :
    Settled c (s.run c inputs).1 := by
  induction inputs generalizing s with
  | nil => exact h
  | cons x inputs ih =>
      obtain ⟨m, i⟩ := x
      rw [run_cons]
      exact ih (h.step m i)

theorem run_concat (s : Client) (inputs : List (Moment × Input)) (m : Moment) (i : Input) :
    (s.run c (inputs ++ [(m, i)])).1 = ((s.run c inputs).1.step c m i).1 := by
  rw [run_append, run_cons, run_nil]

theorem openTimes_concat (s : Client) (inputs : List (Moment × Input)) (m : Moment) (i : Input) :
    openTimes c s (inputs ++ [(m, i)]) = openTimes c s inputs ++
      (opens ((s.run c inputs).1.step c m i).2).map fun _ ↦ m.now := by
  rw [openTimes, collect_append, collect_cons, collect_nil, List.append_nil, openTimes]

theorem Timed.punctual (h : Timed c s start inputs now) (hs : Settled c s)
    (hstart : s.Punctual start) : (s.run c inputs).1.Punctual now := by
  induction h with
  | start => exact hstart
  | pass h hle hcalled hstops ih => exact hstops
  | take h i ih =>
      rw [run_concat]
      exact ih.reaction (reaction_step (settled_run hs _) _ i)

/-- What is to come of a client whose timer is set: the timer starts an attempt, which makes its
call at the same time. -/
inductive Awaits (due now : Nat) (s : Client) : List Nat → Prop
  | timer (hretry : s.retry = some due) (hle : now ≤ due) : Awaits due now s []
  | call {url : String} (hlink : s.link = .waiting url) (hnow : now = due) : Awaits due now s []
  | made (later : List Nat) : Awaits due now s (due :: later)

theorem Awaits.concat {times : List Nat} (h : Awaits due m.now s times) (hs : Settled c s)
    (hi : ¬ i.Interrupts) (r : Reaction c m s i s' effects) :
    Awaits due m.now s' (times ++ (opens effects).map fun _ ↦ m.now) := by
  cases h with
  | made later => exact .made _
  | timer hretry hle =>
      have hidle : s.link = .idle := (hs.retry (by simp [hretry])).1
      have hopens : opens effects = [] := by
        rcases opens_reaction r with hnone | ⟨-, url, hwaiting, -⟩
        · exact hnone
        · simp [hidle] at hwaiting
      rw [hopens]
      cases r with
      | ignored => exact .timer hretry hle
      | asked => exact .timer hretry hle
      | noted => exact .timer hretry hle
      | retried hlink htime hdue =>
          obtain rfl : _ = due := Option.some.inj (htime.symm.trans hretry)
          exact .call rfl (Nat.le_antisymm hle hdue)
      | dialled => exact absurd trivial hi
      | hungUp => exact absurd trivial hi
      | stopped => exact absurd trivial hi
      | failed hfails => exact absurd hidle hfails.link_ne_idle
      | _ => simp_all
  | @call url hlink hnow =>
      cases r with
      | called => exact hnow ▸ .made []
      | ignored => exact .call hlink hnow
      | asked => exact .call hlink hnow
      | noted => exact .call hlink hnow
      | dialled => exact absurd trivial hi
      | hungUp => exact absurd trivial hi
      | stopped => exact absurd trivial hi
      | failed hfails => cases hfails <;> simp_all
      | _ => simp_all

/-- A timer that nothing disturbs makes its call when it is due. -/
theorem Timed.awaits (h : Timed c s start inputs now) (hs : Settled c s)
    (hstart : s.Punctual start) (hretry : s.retry = some due) (hquiet : Undisturbed inputs) :
    Awaits due now (s.run c inputs).1 (openTimes c s inputs) := by
  induction h with
  | start => exact .timer hretry ((punctual_iff.1 hstart).2.1 due hretry)
  | pass h hle hcalled hstops ih =>
      have hbefore := ih hquiet
      generalize openTimes c s _ = times at hbefore ⊢
      cases hbefore with
      | timer hretry hle => exact .timer hretry (hstops due (mem_deadlines.2 (.inr (.inl hretry))))
      | call hlink => exact absurd hlink (hcalled _)
      | made later => exact .made later
  | @take inputs m h i ih =>
      obtain ⟨hbefore, hi⟩ := List.forall_mem_append.1 hquiet
      rw [openTimes_concat, run_concat]
      exact (ih hbefore).concat (settled_run hs _) (hi (m, i) List.mem_cons_self)
        (reaction_step (settled_run hs _) m i)

end Runs

section Losses

variable {c : Config} {m : Moment} {s s' : Client} {i : Input} {effects : List Effect}

theorem lossEffects_subset_faultEffects (c : Config) (s : Client) (f : Fault) :
    s.lossEffects c ⊆ s.faultEffects c f := by
  intro e he
  simp [faultEffects, he]

theorem retry_lose (hbudget : s.attempts ≤ c.backoff.maxAttempts) (hretry : s.retry = none)
    (heffects : s.lossEffects c ⊆ effects) (now : Nat) :
    (s.lose c now).retry = some (now + c.backoff.delayMillis (s.lose c now).attempts) ∨
      (s.lose c now).retry = none ∧ (s.lose c now).attempts = c.backoff.maxAttempts ∧
        .report (Report.exhausted c.backoff.maxAttempts) ∈ effects := by
  by_cases hallows : c.backoff.allows s.attempts = true
  · exact Or.inl (by simp [lose, hallows])
  · have hge : c.backoff.maxAttempts ≤ s.attempts := by simpa [Backoff.allows] using hallows
    have hspent := Nat.le_antisymm hbudget hge
    exact Or.inr ⟨by simp [lose, hallows, hretry], by simpa [lose, hallows] using hspent,
      heffects (by simp [lossEffects, hallows, ← hspent])⟩

/-- A loss sets the timer by the number of attempts, or tells that the budget is spent. -/
theorem retry_of_loses (h : Settled c s) (r : Reaction c m s i s' effects)
    (hloses : s.loses s' = true) :
    s'.retry = some (m.now + c.backoff.delayMillis s'.attempts) ∨
      s'.retry = none ∧ s'.attempts = c.backoff.maxAttempts ∧
        .report (Report.exhausted c.backoff.maxAttempts) ∈ effects := by
  have hheld : s.link ≠ .idle := by
    intro hidle
    simp [loses, hidle] at hloses
  have hretry := h.retry_eq_none hheld
  have hfault := lossEffects_subset_faultEffects c s
  cases r with
  | @untold command topics frame entry call f =>
      exact retry_lose (s := { s with topics }) h.budget hretry
        (List.Subset.trans (hfault f) (List.subset_append_left _ _)) m.now
  | failed => exact retry_lose h.budget hretry (hfault _) m.now
  | closed => exact retry_lose h.budget hretry (List.Subset.refl _) m.now
  | @broken call deadline sent unsent frame f =>
      exact retry_lose (s := s.accept call) (Nat.zero_le _) hretry
        (List.Subset.trans (lossEffects_subset_faultEffects c _ f)
          (List.subset_append_right _ _)) m.now
  | _ => simp_all [loses, hangUp, dial, accept]

/-- A timer is what it was before, or is set by a loss. -/
theorem timer_reaction (h : Settled c s) (r : Reaction c m s i s' effects) {due : Nat}
    (hdue : s'.retry = some due) :
    s.retry = some due ∨ s.loses s' = true ∧ due = m.now + c.backoff.delayMillis s'.attempts := by
  cases hretry : s.retry with
  | none =>
      have hloses := loses_of_armed r hretry h (by simp [hdue])
      rcases retry_of_loses h r hloses with hset | ⟨hnone, -⟩
      · exact Or.inr ⟨hloses, Option.some.inj (hdue.symm.trans hset)⟩
      · simp [hnone] at hdue
  | some time =>
      have hidle : s.link = .idle := (h.retry (by simp [hretry])).1
      refine Or.inl ?_
      cases r with
      | failed hfails => exact absurd hidle hfails.link_ne_idle
      | _ => simp_all [dial, hangUp]

/-- An attempt of a client that nobody interrupts goes on or is started by the timer. -/
theorem attempt_reaction (r : Reaction c m s i s' effects) (hi : ¬ i.Interrupts) {url : String}
    (hlink : s'.link = .waiting url) :
    s.link = .waiting url ∨ ∃ time, s.retry = some time ∧ time ≤ m.now := by
  cases r with
  | dialled => exact absurd trivial hi
  | retried _ htime hdue => exact Or.inr ⟨_, htime, hdue⟩
  | _ => simp_all [hangUp, accept]

theorem retry_reaction (r : Reaction c m s .retry s' effects) {time : Nat}
    (hlive : s.stopped = false) (htime : s.retry = some time) (hdue : time ≤ m.now) :
    s' = { s with retry := none }.dial c ∧ effects = [.become .connecting] := by
  cases r with
  | ignored hi => simp [hlive, Ignores, htime, Nat.not_lt.2 hdue] at hi
  | retried => exact ⟨rfl, rfl⟩
  | failed hfails => cases hfails

theorem step_retry (h : Settled c s) {time : Nat} (htime : s.retry = some time)
    (hdue : time ≤ m.now) :
    s.step c m .retry = ({ s with retry := none }.dial c, [.become .connecting]) := by
  have hlive : s.stopped = false := by
    cases hstopped : s.stopped with
    | false => rfl
    | true => simp [(h.closing (h.stopped hstopped)).2] at htime
  obtain ⟨hclient, heffects⟩ := retry_reaction (reaction_step h m _) hlive htime hdue
  exact Prod.ext hclient heffects

end Losses

/-- A connection was asked for at that time, and nothing has come between. -/
def Requested (inputs : List (Moment × Input)) (time : Nat) : Prop :=
  ∃ before m token rest, inputs = before ++ (m, .command (.connect token)) :: rest ∧
    m.now = time ∧ Undisturbed rest

/-- Another try was set for that time by a loss, and nothing has come between. -/
def Scheduled (c : Config) (inputs : List (Moment × Input)) (time : Nat) : Prop :=
  ∃ before m i rest, inputs = before ++ (m, i) :: rest ∧
    (after c before).loses (after c (before ++ [(m, i)])) = true ∧
    time = m.now + c.backoff.delayMillis (after c (before ++ [(m, i)])).attempts ∧
    Undisturbed rest

/-- An attempt has been asked for or scheduled for the time it is, and a timer for the time it is
set for. -/
structure Founded (c : Config) (inputs : List (Moment × Input)) (now : Nat) (s : Client) :
    Prop where
  attempt : ∀ url, s.link = .waiting url → Requested inputs now ∨ Scheduled c inputs now
  timer : ∀ due, s.retry = some due → Scheduled c inputs due

section Origins

variable {c : Config} {m : Moment} {s s' : Client} {i : Input} {effects : List Effect}
  {inputs : List (Moment × Input)} {now time : Nat}

theorem Undisturbed.concat (h : Undisturbed inputs) (hi : ¬ i.Interrupts) (m : Moment) :
    Undisturbed (inputs ++ [(m, i)]) := by
  intro x hx
  rcases List.mem_append.1 hx with hx | hx
  · exact h x hx
  · rw [List.mem_singleton.1 hx]
    exact hi

theorem Requested.concat (h : Requested inputs time) (hi : ¬ i.Interrupts) (m : Moment) :
    Requested (inputs ++ [(m, i)]) time := by
  obtain ⟨before, m', token, rest, rfl, htime, hrest⟩ := h
  exact ⟨before, m', token, rest ++ [(m, i)], by simp, htime, Undisturbed.concat hrest hi m⟩

theorem Scheduled.concat (h : Scheduled c inputs time) (hi : ¬ i.Interrupts) (m : Moment) :
    Scheduled c (inputs ++ [(m, i)]) time := by
  obtain ⟨before, m', i', rest, rfl, hloses, htime, hrest⟩ := h
  exact ⟨before, m', i', rest ++ [(m, i)], by simp, hloses, htime,
    Undisturbed.concat hrest hi m⟩

/-- An interruption that is ignored finds nothing to interrupt. -/
theorem founded_of_ignored (hs : Settled c s) (hi : i.Interrupts)
    (hignored : s.stopped = true ∨ s.Ignores m i) : Founded c inputs now s := by
  have hrest : (∀ url, s.link ≠ .waiting url) ∧ s.retry = none := by
    rcases hignored with hstopped | hignored
    · obtain ⟨hidle, hnone⟩ := hs.closing (hs.stopped hstopped)
      exact ⟨by simp [hidle], hnone⟩
    · cases i with
      | command command =>
          cases command with
          | connect token =>
              obtain ⟨call, hlink⟩ := Link.isOpen_iff.1 hignored
              exact ⟨by simp [hlink], hs.retry_eq_none (by simp [hlink])⟩
          | disconnect => exact hignored.elim
          | stop => exact hignored.elim
          | _ => exact hi.elim
      | _ => exact hi.elim
  exact ⟨fun url hlink ↦ absurd hlink (hrest.1 url), by simp [hrest.2]⟩

theorem Founded.reaction (h : Founded c inputs m.now (after c inputs))
    (hpunctual : (after c inputs).Punctual m.now)
    (r : Reaction c m (after c inputs) i (after c (inputs ++ [(m, i)])) effects) :
    Founded c (inputs ++ [(m, i)]) m.now (after c (inputs ++ [(m, i)])) := by
  have hs := settled_after c inputs
  by_cases hi : i.Interrupts
  · generalize hnext : after c (inputs ++ [(m, i)]) = s' at r ⊢
    cases r with
    | ignored hignored => exact founded_of_ignored hs hi hignored
    | @dialled token =>
        exact ⟨fun _ _ ↦ .inl ⟨inputs, m, token, [], rfl, rfl, nofun⟩, nofun⟩
    | hungUp => exact ⟨nofun, nofun⟩
    | stopped => exact ⟨nofun, nofun⟩
    | noted w => cases w <;> exact hi.elim
    | told w => cases w <;> exact hi.elim
    | untold w => cases w <;> exact hi.elim
    | failed hfails => cases hfails <;> exact hi.elim
    | _ => exact hi.elim
  · constructor
    · intro url hlink
      rcases attempt_reaction r hi hlink with hbefore | ⟨time, htime, hdue⟩
      · exact (h.attempt url hbefore).imp (·.concat hi m) (·.concat hi m)
      · -- The timer is not late, so it is due at this very time.
        have hle := hpunctual time (mem_deadlines.2 (.inr (.inl htime)))
        obtain rfl := Nat.le_antisymm hle hdue
        exact .inr ((h.timer _ htime).concat hi m)
    · intro due hdue
      rcases timer_reaction hs r hdue with hbefore | ⟨hloses, htime⟩
      · exact (h.timer due hbefore).concat hi m
      · exact ⟨inputs, m, i, [], rfl, hloses, htime, nofun⟩

theorem Timed.founded (h : Timed c (initial c) 0 inputs now) :
    Founded c inputs now (after c inputs) := by
  have hstart : (initial c).Punctual 0 := fun _ _ ↦ Nat.zero_le _
  induction h with
  | start => exact ⟨nofun, nofun⟩
  | pass h hle hcalled hstops ih =>
      exact ⟨fun url hlink ↦ absurd hlink (hcalled url), ih.timer⟩
  | @take inputs m h i ih =>
      have r := reaction_step (settled_after c inputs) m i
      rw [← after_concat] at r
      exact ih.reaction (h.punctual (.initial c) hstart) r

end Origins

def Unanswered (call : Nat) (inputs : List (Moment × Input)) : Prop :=
  ∀ x ∈ inputs, x.2 ≠ .opened call ∧ ∀ f, x.2 ≠ .refused call f

/-- A call that is neither answered nor interrupted: it is still under way, or it has expired at its
deadline. -/
def Hangs (c : Config) (s : Client) (call deadline now : Nat) (inputs : List (Moment × Input)) :
    Prop :=
  ((s.run c inputs).1.link = .opening call deadline ∧ now ≤ deadline) ∨
    ∃ before m rest, inputs = before ++ (m, .expired) :: rest ∧ m.now = deadline ∧
      (s.run c before).1.link = .opening call deadline

section Expiry

variable {c : Config} {m : Moment} {s s' : Client} {i : Input} {effects : List Effect}
  {inputs : List (Moment × Input)} {now start call deadline : Nat} {f : Fault}

theorem Hangs.concat (h : Hangs c s call deadline now inputs) (later : Nat) (m : Moment) (i : Input)
    (hnext : (s.run c inputs).1.link = .opening call deadline → now ≤ deadline →
      Hangs c s call deadline later (inputs ++ [(m, i)])) :
    Hangs c s call deadline later (inputs ++ [(m, i)]) := by
  rcases h with ⟨hlink, hle⟩ | ⟨before, m', rest, rfl, htime, hlink⟩
  · exact hnext hlink hle
  · exact .inr ⟨before, m', rest ++ [(m, i)], by simp, htime, hlink⟩

/-- A call without an answer goes on, or has expired. -/
theorem undecided_reaction (r : Reaction c m s i s' effects)
    (hlink : s.link = .opening call deadline) (hi : ¬ i.Interrupts) (hopened : i ≠ .opened call)
    (hrefused : ∀ f, i ≠ .refused call f) :
    s'.link = .opening call deadline ∨ i = .expired ∧ deadline ≤ m.now := by
  cases r with
  | ignored => exact .inl hlink
  | asked => exact .inl hlink
  | noted => exact .inl hlink
  | dialled => exact absurd trivial hi
  | hungUp => exact absurd trivial hi
  | stopped => exact absurd trivial hi
  | opened => simp_all
  | broken => simp_all
  | failed hfails =>
      cases hfails with
      | expired hlink' hdue =>
          cases hlink.symm.trans hlink'
          exact .inr ⟨rfl, hdue⟩
      | refused => simp_all
      | failed => simp_all
      | unpinged => simp_all
  | _ => simp_all

theorem Timed.hangs (h : Timed c s start inputs now) (hs : Settled c s)
    (hlink : s.link = .opening call deadline) (hstart : start ≤ deadline)
    (hquiet : Undisturbed inputs) (hcall : Unanswered call inputs) :
    Hangs c s call deadline now inputs := by
  induction h with
  | start => exact .inl ⟨hlink, hstart⟩
  | pass h hle hcalled hstops ih =>
      refine (ih hquiet hcall).imp_left fun hheld ↦ ⟨hheld.1, ?_⟩
      exact hstops deadline (mem_deadlines.2 (.inr (.inr ⟨call, hheld.1⟩)))
  | @take inputs m h i ih =>
      obtain ⟨hbefore, hi⟩ := List.forall_mem_append.1 hquiet
      obtain ⟨hnever, hcall⟩ := List.forall_mem_append.1 hcall
      obtain ⟨hopened, hrefused⟩ := hcall (m, i) List.mem_cons_self
      refine (ih hbefore hnever).concat m.now m i fun hlink hle ↦ ?_
      rcases undecided_reaction (reaction_step (settled_run hs _) m i) hlink
        (hi (m, i) List.mem_cons_self) hopened hrefused with hsame | ⟨rfl, hdue⟩
      · exact .inl ⟨by rwa [run_concat], hle⟩
      · exact .inr ⟨inputs, m, [], rfl, Nat.le_antisymm hle hdue, hlink⟩

theorem step_of_fails (h : Settled c s) (hf : s.Fails c m i f) :
    s.step c m i = (s.lose c m.now, s.faultEffects c f) := by
  have hlive := h.stopped_eq_false hf.link_ne_idle
  have r := reaction_step h m i
  suffices hparts : (s.step c m i).1 = s.lose c m.now ∧ (s.step c m i).2 = s.faultEffects c f from
    Prod.ext hparts.1 hparts.2
  generalize (s.step c m i).1 = s', (s.step c m i).2 = effects at r ⊢
  cases r with
  | ignored hi => exact absurd (hi.resolve_left (by simp [hlive])) hf.not_ignores
  | pinged hlink hdue hsent =>
      cases hf with
      | unpinged _ _ hrefused => simp [hsent] at hrefused
  | failed hfails =>
      -- The fault is told by the input, or by the answer to the ping.
      cases hfails <;> cases hf <;> simp_all
  | _ => cases hf

/-- A call that has expired fails as one that is refused. -/
theorem step_expired (h : Settled c s) (hlink : s.link = .opening call deadline)
    (hdue : deadline ≤ m.now) :
    s.step c m .expired = s.step c m (.refused call (.timeout c.connectTimeout)) ∧
      s.step c m .expired = (s.lose c m.now,
        [.report (Report.fault (.timeout c.connectTimeout)), .become .error] ++
          s.lossEffects c) := by
  have hexpired := step_of_fails h (.expired (c := c) (m := m) hlink hdue)
  have hrefused := step_of_fails h
    (.refused (c := c) (m := m) (f := .timeout c.connectTimeout) hlink)
  have heffects := faultEffects_of_not_open c (.timeout c.connectTimeout) (s := s)
    (by simp [hlink, Link.isOpen])
  exact ⟨hexpired.trans hrefused.symm, hexpired.trans (by rw [heffects]; rfl)⟩

theorem link_of_opens (r : Reaction c m s i s' effects) (hopens : opens effects ≠ []) :
    ∃ call, s'.link = .opening call (m.now + c.connectTimeout.ceilMillis) := by
  obtain ⟨rfl, url, hlink, -⟩ := (opens_reaction r).resolve_left hopens
  cases r with
  | ignored hi => exact absurd rfl hopens
  | called => exact ⟨_, rfl⟩
  | failed hfails => cases hfails

/-- Unless it is interrupted, the next call of a client comes when it is due. -/
def CallsAt (c : Config) (s : Client) (start due : Nat) : Prop :=
  ∀ rest now, Timed c s start rest now → Undisturbed rest →
    (openTimes c s rest = [] ∧ now ≤ due) ∨ ∃ later, openTimes c s rest = due :: later

/-- When a client calls by itself, and what comes of a call that nobody answers. -/
structure OnTime (c : Config) (timeout : Nat) : Prop where
  /-- After a loss the next call comes when its delay is over, unless the budget is spent. -/
  retried : ∀ before m i, Timed c (initial c) 0 before m.now →
    (after c before).loses (after c (before ++ [(m, i)])) = true →
      ((after c (before ++ [(m, i)])).retry = none ∧
        (after c (before ++ [(m, i)])).attempts = c.backoff.maxAttempts ∧
        .report (Report.exhausted c.backoff.maxAttempts) ∈ ((after c before).step c m i).2) ∨
      CallsAt c (after c (before ++ [(m, i)])) m.now
        (m.now + c.backoff.delayMillis (after c (before ++ [(m, i)])).attempts)
  /-- There are no other calls than those and the ones that were asked for. -/
  founded : ∀ inputs m i, Timed c (initial c) 0 inputs m.now →
    opens ((after c inputs).step c m i).2 ≠ [] →
      Requested inputs m.now ∨ Scheduled c inputs m.now
  /-- A call has until its deadline. -/
  hangs : ∀ before m i, Timed c (initial c) 0 before m.now →
    opens ((after c before).step c m i).2 ≠ [] →
      ∃ call, (after c (before ++ [(m, i)])).link = .opening call (m.now + timeout) ∧
        ∀ rest now, Timed c (after c (before ++ [(m, i)])) m.now rest now → Undisturbed rest →
          Unanswered call rest →
            Hangs c (after c (before ++ [(m, i)])) call (m.now + timeout) now rest
  /-- A call that has expired fails as one that is refused. -/
  expires : ∀ inputs m call deadline, (after c inputs).link = .opening call deadline →
    deadline ≤ m.now →
      (after c inputs).step c m .expired =
          (after c inputs).step c m (.refused call (.timeout c.connectTimeout)) ∧
        (after c inputs).step c m .expired = ((after c inputs).lose c m.now,
          [.report (Report.fault (.timeout c.connectTimeout)), .become .error] ++
            (after c inputs).lossEffects c)

theorem callsAt {due : Nat} (h : Settled c s) (hstart : s.Punctual start)
    (hretry : s.retry = some due) : CallsAt c s start due := by
  intro rest now hrest hquiet
  have hawaits := hrest.awaits h hstart hretry hquiet
  generalize openTimes c s rest = times at hawaits ⊢
  cases hawaits with
  | timer _ hle => exact .inl ⟨rfl, hle⟩
  | call _ hnow => exact .inl ⟨rfl, Nat.le_of_eq hnow⟩
  | made later => exact .inr ⟨later, rfl⟩

theorem onTime {timeout : Nat} (htimeout : c.connectTimeout = .ofMillis timeout) :
    OnTime c timeout := by
  have hpunctual : ∀ {inputs : List (Moment × Input)} {now : Nat},
      Timed c (initial c) 0 inputs now → (after c inputs).Punctual now :=
    fun h ↦ h.punctual (.initial c) fun _ _ ↦ Nat.zero_le _
  constructor
  · intro before m i htimed hloses
    have hs := settled_after c before
    have r := reaction_step hs m i
    have hnext := (hpunctual htimed).reaction r
    rw [← after_concat] at r hnext
    rcases retry_of_loses hs r hloses with hset | hspent
    · exact .inr (callsAt (settled_after c _) hnext hset)
    · exact .inl hspent
  · intro inputs m i htimed hopens
    obtain ⟨-, url, hlink, -⟩ :=
      (opens_reaction (reaction_step (settled_after c inputs) m i)).resolve_left hopens
    exact htimed.founded.attempt url hlink
  · intro before m i htimed hopens
    obtain ⟨call, hlink⟩ := link_of_opens (reaction_step (settled_after c before) m i) hopens
    rw [← after_concat, htimeout, Time.Duration.ceilMillis_ofMillis] at hlink
    exact ⟨call, hlink, fun rest now hrest hquiet hcall ↦
      hrest.hangs (settled_after c _) hlink (Nat.le_add_right _ _) hquiet hcall⟩
  · exact fun inputs m call deadline hlink hdue ↦
      step_expired (settled_after c inputs) hlink hdue

end Expiry

end Client

end EventFeed.Connection
