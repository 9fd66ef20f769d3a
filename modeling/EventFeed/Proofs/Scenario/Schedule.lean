import EventFeed.Proofs.Connection.Timing
import EventFeed.Proofs.Scenario.Bench
import EventFeed.Proofs.Scenario.Clock

/-!
# Calls that all fail

A client on a transport that accepts nothing makes its calls on a schedule: each comes a delay
after the one before has failed, and a call that hangs fails at its timeout.
-/

namespace EventFeed.Scenario

open Connection

/-- What comes of the calls to come, which are counted from zero. -/
def Transport.outcome (t : Transport) (k : Nat) : Outcome := t.script.getD k t.fallback

/-- When a call is made if all before it fail. -/
def openTime (c : Config) (outcome : Nat → Outcome) (start : Nat) : Nat → Nat
  | 0 => start
  | k + 1 =>
    openTime c outcome start k +
      (if outcome k = .hang then c.connectTimeout.ceilMillis else 0) + c.backoff.delayMillis (k + 1)

/-- Where a client is between two calls, by how many it has made and how many inputs at most it will
take before it needs to wait. -/
inductive Phase (c : Config) (outcome : Nat → Outcome) (start : Nat) :
    (calls left : Nat) → Scene → Prop
  | waiting {s : Scene} {url : String} {k : Nat} (hk : k ≤ c.backoff.maxAttempts)
      (hlink : s.client.link = .waiting url) (hattempts : s.client.attempts = k)
      (hinbox : s.transport.inbox = []) (hnow : s.now = openTime c outcome start k) :
      Phase c outcome start k (3 * (c.backoff.maxAttempts - k) + 2) s
  | refused {s : Scene} {call deadline k : Nat} (hk : k ≤ c.backoff.maxAttempts)
      (hlink : s.client.link = .opening call deadline) (hattempts : s.client.attempts = k)
      (hinbox : s.transport.inbox = [.refused call Transport.openFault])
      (hnow : s.now = openTime c outcome start k) (houtcome : outcome k ≠ .hang) :
      Phase c outcome start (k + 1) (3 * (c.backoff.maxAttempts - k) + 1) s
  | hanging {s : Scene} {call k : Nat} (hk : k ≤ c.backoff.maxAttempts)
      (hlink : s.client.link =
        .opening call (openTime c outcome start k + c.connectTimeout.ceilMillis))
      (hattempts : s.client.attempts = k) (hinbox : s.transport.inbox = [])
      (hfrom : openTime c outcome start k ≤ s.now)
      (hnow : s.now ≤ openTime c outcome start k + c.connectTimeout.ceilMillis)
      (houtcome : outcome k = .hang) :
      Phase c outcome start (k + 1) (3 * (c.backoff.maxAttempts - k) + 1) s
  | armed {s : Scene} {k : Nat} (hk : k < c.backoff.maxAttempts) (hlink : s.client.link = .idle)
      (hretry : s.client.retry = some (openTime c outcome start (k + 1)))
      (hattempts : s.client.attempts = k + 1) (hinbox : s.transport.inbox = [])
      (hfrom : openTime c outcome start k ≤ s.now)
      (hnow : s.now ≤ openTime c outcome start (k + 1)) :
      Phase c outcome start (k + 1) (3 * (c.backoff.maxAttempts - k)) s
  | spent {s : Scene} (hlink : s.client.link = .idle) (hretry : s.client.retry = none)
      (hinbox : s.transport.inbox = [])
      (hfrom : openTime c outcome start c.backoff.maxAttempts ≤ s.now) :
      Phase c outcome start (c.backoff.maxAttempts + 1) 0 s

/-- A client whose calls all fail, with the times of its calls after those made before. -/
structure Trying (c : Config) (outcome : Nat → Outcome) (start : Nat) (before : List Nat)
    (calls : Nat) (s : Scene) : Prop where
  config : s.config = c
  settled : Settled c s.client
  outcomes : ∀ k, s.transport.outcome k = outcome (calls + k)
  opens : s.transport.opens.map Prod.fst =
    ((List.range calls).map (openTime c outcome start)).reverse ++ before
  fails : ∀ k ≤ c.backoff.maxAttempts, outcome k ≠ .accept

section Steps

variable {c : Config} {outcome : Nat → Outcome} {start calls left k : Nat} {before : List Nat}
  {s : Scene}

theorem nextOutcome_eq (t : Transport) : t.nextOutcome = t.outcome 0 := by
  rw [Transport.nextOutcome, Transport.outcome]
  cases t.script <;> rfl

theorem outcome_open (t : Transport) (now call k : Nat) (url : String) :
    (t.open now call url).outcome k = t.outcome (k + 1) := by
  have htail : t.script.tail.getD k t.fallback = t.script.getD (k + 1) t.fallback := by
    cases t.script <;> rfl
  rw [Transport.open]
  cases t.nextOutcome <;> exact htail

theorem Trying.settled_take (h : Trying c outcome start before calls s) (i : Input) :
    Settled c (s.take i).client := by
  rw [Scene.take_eq, Scene.client_takeAt, h.config]
  exact h.settled.step _ i

/-- The call that is waiting is made, and is refused or hangs. -/
theorem Trying.begin (h : Trying c outcome start before k s)
    (hk : k ≤ c.backoff.maxAttempts) {url : String} (hlink : s.client.link = .waiting url)
    (hattempts : s.client.attempts = k) (hinbox : s.transport.inbox = [])
    (hnow : s.now = openTime c outcome start k) :
    Trying c outcome start before (k + 1) (s.take .begin) ∧
      Phase c outcome start (k + 1) (3 * (c.backoff.maxAttempts - k) + 1) (s.take .begin) := by
  have hsettled := h.settled_take .begin
  have hlive := h.settled.stopped_eq_false (by simp [hlink])
  have htake : s.take .begin =
      { s with
        client := { s.client with
          link := .opening (s.client.calls + 1) (s.now + c.connectTimeout.ceilMillis)
          calls := s.client.calls + 1 }
        transport := s.transport.open s.now (s.client.calls + 1) url } := by
    rw [Scene.take_eq, Scene.takeAt, h.config, Client.step_begin hlive hlink]
    rfl
  rw [htake] at hsettled ⊢
  refine ⟨⟨h.config, hsettled, fun j ↦ ?_, ?_, h.fails⟩, ?_⟩
  · rw [outcome_open, h.outcomes, Nat.add_assoc, Nat.add_comm 1 j]
  · rw [opens_open, List.map_cons, h.opens, hnow, List.range_succ]
    simp
  · have hnext : s.transport.nextOutcome = outcome k := by
      rw [nextOutcome_eq, h.outcomes, Nat.add_zero]
    cases houtcome : outcome k with
    | accept => exact absurd houtcome (h.fails k hk)
    | refuse =>
        refine .refused hk rfl hattempts ?_ hnow (by simp [houtcome])
        simp [Transport.open, hnext, houtcome, Transport.deliver, hinbox]
    | hang =>
        refine .hanging hk (by rw [hnow]) hattempts ?_ (by rw [hnow]) (by simp [hnow]) houtcome
        simp [Transport.open, hnext, houtcome, hinbox]

/-- A call that fails sets the timer for the next one, if there may be one. -/
theorem Trying.fail (h : Trying c outcome start before (k + 1) s) (hk : k ≤ c.backoff.maxAttempts)
    {call deadline : Nat} (hlink : s.client.link = .opening call deadline)
    (hattempts : s.client.attempts = k) (hinbox : s.transport.inbox = [])
    (hfrom : openTime c outcome start k ≤ s.now)
    (hnext : openTime c outcome start (k + 1) = s.now + c.backoff.delayMillis (k + 1)) {i : Input}
    {f : Fault} (hf : s.client.Fails c s.moment i f) :
    Trying c outcome start before (k + 1) (s.take i) ∧
      Phase c outcome start (k + 1) (3 * (c.backoff.maxAttempts - k)) (s.take i) := by
  have hsettled := h.settled_take i
  have hopen : s.client.link.isOpen = false := by simp [hlink, Link.isOpen]
  have hclient : (s.take i).client = s.client.lose c s.now := by
    rw [Scene.take_eq, Scene.client_takeAt, h.config, Client.step_of_fails h.settled hf]
    rfl
  have htransport : (s.take i).transport = s.transport := by
    rw [Scene.take_eq, Scene.takeAt, h.config, Client.step_of_fails h.settled hf,
      Client.faultEffects_of_not_open c f hopen, Client.lossEffects]
    split <;> rfl
  have hnow : (s.take i).now = s.now := by rw [Scene.take_eq, Scene.now_takeAt]
  have hconfig : (s.take i).config = c := by rw [Scene.take_eq, Scene.config_takeAt, h.config]
  refine ⟨⟨hconfig, hsettled, htransport ▸ h.outcomes, htransport ▸ h.opens, h.fails⟩, ?_⟩
  by_cases hlt : k < c.backoff.maxAttempts
  · have hlose : (s.client.lose c s.now).retry = some (s.now + c.backoff.delayMillis (k + 1)) ∧
        (s.client.lose c s.now).attempts = k + 1 := by
      simp [Client.lose, Backoff.allows, hattempts, hlt]
    refine .armed hlt ?_ ?_ ?_ (htransport ▸ hinbox) (hnow ▸ hfrom) ?_
    · rw [hclient, Client.link_lose]
    · rw [hclient, hlose.1, hnext]
    · rw [hclient, hlose.2]
    · rw [hnow, hnext]
      exact Nat.le_add_right _ _
  · obtain rfl : k = c.backoff.maxAttempts := by omega
    have hlose : (s.client.lose c s.now).retry = s.client.retry := by
      simp [Client.lose, Backoff.allows, hattempts]
    rw [Nat.sub_self]
    refine .spent ?_ ?_ (htransport ▸ hinbox) (hnow ▸ hfrom)
    · rw [hclient, Client.link_lose]
    · rw [hclient, hlose, h.settled.retry_eq_none (by simp [hlink])]

/-- The timer starts the next attempt. -/
theorem Trying.retry (h : Trying c outcome start before (k + 1) s) (hk : k < c.backoff.maxAttempts)
    (hretry : s.client.retry = some (openTime c outcome start (k + 1)))
    (hattempts : s.client.attempts = k + 1) (hinbox : s.transport.inbox = [])
    (hnow : s.now = openTime c outcome start (k + 1)) :
    Trying c outcome start before (k + 1) (s.take .retry) ∧
      Phase c outcome start (k + 1) (3 * (c.backoff.maxAttempts - (k + 1)) + 2)
        (s.take .retry) := by
  have hsettled := h.settled_take .retry
  have hstep := Client.step_retry h.settled (m := s.moment) hretry hnow.ge
  have htake : s.take .retry =
      { s with
        client := { s.client with retry := none }.dial c
        transitions := s.transitions.send .connecting } := by
    rw [Scene.take_eq, Scene.takeAt, h.config, hstep]
    rfl
  rw [htake] at hsettled ⊢
  exact ⟨⟨h.config, hsettled, h.outcomes, h.opens, h.fails⟩,
    .waiting hk rfl hattempts hinbox hnow⟩

theorem openTime_succ_of_ne_hang (h : outcome k ≠ .hang) :
    openTime c outcome start (k + 1) =
      openTime c outcome start k + c.backoff.delayMillis (k + 1) := by
  rw [openTime, if_neg h, Nat.add_zero]

theorem openTime_succ_of_eq_hang (h : outcome k = .hang) :
    openTime c outcome start (k + 1) =
      openTime c outcome start k + c.connectTimeout.ceilMillis + c.backoff.delayMillis (k + 1) := by
  rw [openTime, if_pos h]

theorem not_isDue (h : Settled c s.client) (hlink : s.client.link.isOpen = false) :
    s.client.keepalive.isDue s.now = false := by
  by_contra hdue
  have hopen := h.isOpen_of_isDue (by simpa using hdue)
  simp [hlink] at hopen

/-- Either there is nothing to do before the clock moves, or one thing less after the next one. -/
theorem Trying.step (h : Trying c outcome start before calls s)
    (hphase : Phase c outcome start calls left s) :
    s.next? = none ∨ ∃ i s', s.next? = some (i, s') ∧ s'.now = s.now ∧ ∃ calls', ∃ left' < left,
      Trying c outcome start before calls' (s'.take i) ∧
        Phase c outcome start calls' left' (s'.take i) := by
  cases hphase with
  | waiting hk hlink hattempts hinbox hnow =>
      have hnext : s.next? = some (.begin, s) := by simp [Scene.next?, hlink]
      exact .inr ⟨_, _, hnext, rfl, _, _, by omega,
        h.begin hk hlink hattempts hinbox hnow⟩
  | @refused _ call deadline k hk hlink hattempts hinbox hnow houtcome =>
      have hnext : s.next? = some (.refused call Transport.openFault,
          { s with transport := { s.transport with inbox := [] } }) := by
        simp [Scene.next?, hlink, hinbox]
      have hcleared : Trying c outcome start before (k + 1)
          { s with transport := { s.transport with inbox := [] } } :=
        ⟨h.config, h.settled, h.outcomes, h.opens, h.fails⟩
      exact .inr ⟨_, _, hnext, rfl, _, _, by omega, hcleared.fail hk hlink hattempts rfl hnow.ge
        (by rw [openTime_succ_of_ne_hang houtcome, hnow]) (.refused hlink)⟩
  | @hanging _ call k hk hlink hattempts hinbox hfrom hnow houtcome =>
      have hping := not_isDue h.settled (by simp [hlink, Link.isOpen])
      have hretry := h.settled.retry_eq_none (by simp [hlink])
      by_cases hdue : openTime c outcome start k + c.connectTimeout.ceilMillis ≤ s.now
      · have hnext : s.next? = some (.expired, s) := by
          simp [Scene.next?, hlink, hinbox, hping, hretry, hdue]
        have htime := Nat.le_antisymm hnow hdue
        exact .inr ⟨_, _, hnext, rfl, _, _, by omega, h.fail hk hlink hattempts hinbox hfrom
          (by rw [openTime_succ_of_eq_hang houtcome, htime]) (.expired hlink hdue)⟩
      · exact .inl (by simp [Scene.next?, hlink, hinbox, hping, hretry, hdue])
  | @armed _ k hk hlink hretry hattempts hinbox hfrom hnow =>
      have hping := not_isDue h.settled (by simp [hlink, Link.isOpen])
      by_cases hdue : openTime c outcome start (k + 1) ≤ s.now
      · have hnext : s.next? = some (.retry, s) := by
          simp [Scene.next?, hlink, hinbox, hping, hretry, hdue]
        exact .inr ⟨_, _, hnext, rfl, _, _, by omega,
          h.retry hk hretry hattempts hinbox (Nat.le_antisymm hnow hdue)⟩
      · exact .inl (by simp [Scene.next?, hlink, hinbox, hping, hretry, hdue])
  | spent hlink hretry hinbox hfrom =>
      have hping := not_isDue h.settled (by simp [hlink, Link.isOpen])
      exact .inl (by simp [Scene.next?, hlink, hinbox, hping, hretry])

theorem Phase.left_le (h : Phase c outcome start calls left s) :
    left ≤ 3 * c.backoff.maxAttempts + 2 := by
  cases h <;> omega

end Steps

/-- A client whose calls all fail, when it has nothing to do before the clock moves. -/
structure Pausing (c : Config) (outcome : Nat → Outcome) (start : Nat) (before : List Nat)
    (s : Scene) : Prop where
  next? : s.next? = none
  phase : ∃ calls left, Trying c outcome start before calls s ∧
    Phase c outcome start calls left s

section Clock

variable {c : Config} {outcome : Nat → Outcome} {start calls left time : Nat}
  {before : List Nat} {s : Scene}

theorem Trying.settleWithin (h : Trying c outcome start before calls s)
    (hphase : Phase c outcome start calls left s) {bound : Nat} (hbound : left ≤ bound) :
    Pausing c outcome start before (s.settleWithin bound) ∧ (s.settleWithin bound).now = s.now := by
  induction bound generalizing s calls left with
  | zero =>
      rcases h.step hphase with hnone | ⟨_, _, _, _, _, _, hlt, -⟩
      · exact ⟨⟨hnone, _, _, h, hphase⟩, rfl⟩
      · omega
  | succ bound ih =>
      rcases h.step hphase with
        hnone | ⟨i, s', hnext, hnow, calls', left', hlt, htrying, hphase'⟩
      · rw [Scene.settleWithin, hnone]
        exact ⟨⟨hnone, _, _, h, hphase⟩, rfl⟩
      · obtain ⟨hpausing, htime⟩ := ih htrying hphase' (by omega)
        rw [Scene.settleWithin, hnext]
        refine ⟨hpausing, ?_⟩
        rw [htime, Scene.take_eq, Scene.now_takeAt, hnow]

theorem Trying.settle (h : Trying c outcome start before calls s)
    (hphase : Phase c outcome start calls left s) :
    Pausing c outcome start before s.settle ∧ s.settle.now = s.now := by
  have hle := hphase.left_le
  refine h.settleWithin hphase ?_
  rw [h.config]
  omega

/-- The clock stops at a time that is no later than any deadline. -/
theorem Pausing.pass (h : Pausing c outcome start before s)
    (hle : s.now ≤ time) (hstops : ∀ d ∈ s.client.deadlines, time ≤ d) :
    Pausing c outcome start before { s with now := time }.settle ∧
      { s with now := time }.settle.now = time := by
  obtain ⟨hnext, calls, left, htrying, hphase⟩ := h
  have hlater : Trying c outcome start before calls { s with now := time } :=
    ⟨htrying.config, htrying.settled, htrying.outcomes, htrying.opens, htrying.fails⟩
  suffices hphase' : Phase c outcome start calls left { s with now := time } from
    hlater.settle hphase'
  cases hphase with
  | waiting hk hlink => simp [Scene.next?, hlink] at hnext
  | refused hk hlink hattempts hinbox => simp [Scene.next?, hlink, hinbox] at hnext
  -- The clock has not passed the deadline, or the timer, that the next step waits for.
  | hanging hk hlink hattempts hinbox hfrom hnow houtcome =>
      exact .hanging hk hlink hattempts hinbox (hfrom.trans hle)
        (hstops _ (Client.mem_deadlines.2 (.inr (.inr ⟨_, hlink⟩)))) houtcome
  | armed hk hlink hretry hattempts hinbox hfrom hnow =>
      exact .armed hk hlink hretry hattempts hinbox (hfrom.trans hle)
        (hstops _ (Client.mem_deadlines.2 (.inr (.inl hretry))))
  | spent hlink hretry hinbox hfrom => exact .spent hlink hretry hinbox (hfrom.trans hle)

theorem Pausing.sleep (h : Pausing c outcome start before s) (millis : Nat) :
    Pausing c outcome start before (s.sleep millis) ∧
      (s.sleep millis).now = s.now + millis := by
  refine sleep_induction (c := c) (fun s h ↦ ?_) (fun _ h ↦ h.next?) (fun _ _ h ↦ h.pass) h millis
  obtain ⟨_, _, htrying, -⟩ := h.phase
  exact htrying.settled

theorem Pausing.sleeps (h : Pausing c outcome start before s) (sleeps : List Nat) :
    Pausing c outcome start before (sleeps.foldl Scene.sleep s) ∧
      (sleeps.foldl Scene.sleep s).now = sleeps.foldl (· + ·) s.now := by
  induction sleeps generalizing s with
  | nil => exact ⟨h, rfl⟩
  | cons millis sleeps ih =>
      obtain ⟨hnext, hnow⟩ := h.sleep millis
      rw [List.foldl_cons, List.foldl_cons, ← hnow]
      exact ih hnext

theorem Trying.connect (hconfig : s.config = c) (hs : Settled c s.client)
    (hinbox : s.transport.inbox = []) (hlive : s.client.stopped = false)
    (hopen : s.client.link.isOpen = false)
    (hfails : ∀ k ≤ c.backoff.maxAttempts, s.transport.outcome k ≠ .accept)
    (token : Option Token) :
    Trying c s.transport.outcome s.now (s.transport.opens.map Prod.fst) 0
        (s.command (.connect token)) ∧
      Phase c s.transport.outcome s.now 0 (3 * c.backoff.maxAttempts + 2)
        (s.command (.connect token)) ∧
      (s.command (.connect token)).now = s.now := by
  have hclient : (s.command (.connect token)).client =
      { s.client with closing := false, retry := none, attempts := 0, token }.dial c := by
    rw [Scene.command, Scene.take_eq, Scene.client_takeAt, hconfig,
      Client.step_connect hs s.moment hopen hlive]
  have htransport : (s.command (.connect token)).transport = s.transport := by
    rw [Scene.command, Scene.take_eq, Scene.takeAt, hconfig,
      Client.step_connect hs s.moment hopen hlive, Client.become]
    split <;> rfl
  have hnow : (s.command (.connect token)).now = s.now := by
    rw [Scene.command, Scene.take_eq, Scene.now_takeAt]
  have hsettled : Settled c (s.command (.connect token)).client := by
    rw [Scene.command, Scene.take_eq, Scene.client_takeAt, hconfig]
    exact hs.step _ _
  refine ⟨⟨?_, hsettled, ?_, ?_, hfails⟩, ?_, hnow⟩
  · rw [Scene.command, Scene.take_eq, Scene.config_takeAt, hconfig]
  · simp [htransport]
  · simp [htransport]
  · exact .waiting (Nat.zero_le _) (by rw [hclient]; rfl) (by rw [hclient]; rfl)
      (by rw [htransport, hinbox]) hnow

end Clock

/-- What a client has done at a time, when the calls that it makes are due at the times given and
all fail. -/
structure OnSchedule (c : Config) (time : Nat → Nat) (before : List Nat) (s : Scene) :
    Prop where
  rests : s.next? = none
  /-- The calls that are due were made, the newest first. -/
  calls : ∃ k ≤ c.backoff.maxAttempts,
    s.transport.opens.map Prod.fst = ((List.range (k + 1)).map time).reverse ++ before ∧
      time k ≤ s.now ∧ (k < c.backoff.maxAttempts → s.now < time (k + 1))
  /-- After the last of them there are no more. -/
  spent : time c.backoff.maxAttempts ≤ s.now →
    s.transport.opens.map Prod.fst =
      ((List.range (c.backoff.maxAttempts + 1)).map time).reverse ++ before

section Calls

variable {c : Config} {outcome : Nat → Outcome} {start : Nat} {before : List Nat} {s : Scene}

theorem openTime_mono (c : Config) (outcome : Nat → Outcome) (start : Nat) :
    Monotone (openTime c outcome start) :=
  monotone_nat_of_le_succ fun k ↦ by
    rw [openTime]
    omega

theorem Pausing.calls (h : Pausing c outcome start before s) :
    ∃ k ≤ c.backoff.maxAttempts, Trying c outcome start before (k + 1) s ∧
      openTime c outcome start k ≤ s.now ∧
      (k < c.backoff.maxAttempts → s.now < openTime c outcome start (k + 1)) := by
  obtain ⟨hnext, calls, left, htrying, hphase⟩ := h
  have hlt : ∀ d ∈ s.client.deadlines, s.now < d := fun d ↦ lt_deadline hnext
  cases hphase with
  | waiting hk hlink => simp [Scene.next?, hlink] at hnext
  | refused hk hlink hattempts hinbox => simp [Scene.next?, hlink, hinbox] at hnext
  | @hanging _ call k hk hlink hattempts hinbox hfrom hnow houtcome =>
      have hdeadline := hlt _ (Client.mem_deadlines.2 (.inr (.inr ⟨_, hlink⟩)))
      refine ⟨k, hk, htrying, hfrom, fun _ ↦ hdeadline.trans_le ?_⟩
      rw [openTime_succ_of_eq_hang houtcome]
      exact Nat.le_add_right _ _
  | @armed _ k hk hlink hretry hattempts hinbox hfrom hnow =>
      exact ⟨k, hk.le, htrying, hfrom,
        fun _ ↦ hlt _ (Client.mem_deadlines.2 (.inr (.inl hretry)))⟩
  | spent hlink hretry hinbox hfrom => exact ⟨_, le_rfl, htrying, hfrom, fun h ↦ by omega⟩

theorem Pausing.onSchedule (h : Pausing c outcome start before s) :
    OnSchedule c (openTime c outcome start) before s := by
  obtain ⟨k, hk, htrying, hfrom, hlast⟩ := h.calls
  refine ⟨h.next?, ⟨k, hk, htrying.opens, hfrom, hlast⟩, fun hspent ↦ ?_⟩
  suffices heq : k = c.backoff.maxAttempts from heq ▸ htrying.opens
  by_contra hne
  have hlt : k < c.backoff.maxAttempts := by omega
  exact absurd (openTime_mono c outcome start hlt) (not_le.2 ((hlast hlt).trans_le' hspent))

end Calls

/-- A client calls by itself exactly when a loss has scheduled it, and a call that nobody answers
fails when its time is over, as one that is refused. Where every try has to wait, this is so of the
client of a scene, whatever is done to the scene. So when a connection is asked for and all calls
fail, as many calls are made as the budget allows and one more, each at its time, and there is none
after them. -/
theorem calls_on_schedule (c : Config) {timeout : Nat}
    (htimeout : c.connectTimeout = .ofMillis timeout) :
    Client.OnTime c timeout ∧
      (0 < c.backoff.baseMillis → ∀ s, Runs c s →
        s.settle.next? = none ∧ ∃ inputs, Clocked c inputs s) ∧
      ∀ (acts : List Act) (s : Scene) (token : Option Token) (sleeps : List Nat),
        ((Bench.initial c).play acts).scene = s → s.transport.inbox = [] →
        s.client.stopped = false → s.client.link.isOpen = false →
        (∀ k ≤ c.backoff.maxAttempts, s.transport.outcome k ≠ .accept) →
        ∃ time : Nat → Nat, time 0 = s.now ∧
          (∀ k, time (k + 1) =
            time k + (if s.transport.outcome k = .hang then timeout else 0) +
              c.backoff.delayMillis (k + 1)) ∧
          (sleeps.foldl Scene.sleep (s.command (.connect token)).settle).now =
            sleeps.foldl (· + ·) s.now ∧
          OnSchedule c time (s.transport.opens.map Prod.fst)
            (sleeps.foldl Scene.sleep (s.command (.connect token)).settle) := by
  refine ⟨Client.onTime htimeout, fun hwaits s hruns ↦ ?_, ?_⟩
  · obtain ⟨inputs, hclocked⟩ := hruns.clocked hwaits
    obtain ⟨-, -, hrests, -⟩ := hclocked.settle hwaits
    exact ⟨hrests, inputs, hclocked⟩
  rintro acts s token sleeps rfl hinbox hlive hopen hfails
  have hsound := Bench.sound_play c acts
  have hsettled : Settled c ((Bench.initial c).play acts).scene.client := by
    rw [hsound.client]
    exact Client.settled_after c _
  obtain ⟨htrying, hphase, hnow⟩ :=
    Trying.connect hsound.config hsettled hinbox hlive hopen hfails token
  obtain ⟨hpausing, hsame⟩ := htrying.settle hphase
  obtain ⟨hlast, htime⟩ := hpausing.sleeps sleeps
  refine ⟨openTime c _ _, rfl, fun k ↦ ?_, ?_, hlast.onSchedule⟩
  · rw [openTime, htimeout, Time.Duration.ceilMillis_ofMillis]
  · rw [htime, hsame, hnow]

/-- Two tries after the first call, and little patience. -/
def impatient : Config :=
  { Config.default with backoff := ⟨2, .ofMillis 10⟩, connectTimeout := .ofMillis 50 }

/-- The first call is refused, the second hangs, and the third is refused. -/
theorem calls_of_impatient :
    impatient.connectTimeout = .ofMillis 50 ∧
      ∃ s, ((Bench.initial impatient).play [.adjust [.refuse, .hang] .refuse false]).scene = s ∧
        s.transport.inbox = [] ∧ s.client.stopped = false ∧ s.client.link.isOpen = false ∧
        (∀ k ≤ impatient.backoff.maxAttempts, s.transport.outcome k ≠ .accept) ∧
        ([30, 1000].foldl Scene.sleep
          (s.command (.connect none)).settle).transport.opens.map Prod.fst = [80, 10, 0] ∧
        ∃ inputs, Client.Timed impatient (.initial impatient) 0 inputs 1030 ∧
          Client.openTimes impatient (.initial impatient) inputs = [0, 10, 80] := by
  have hfails : ∀ k ≤ impatient.backoff.maxAttempts,
      ((Bench.initial impatient).play
        [.adjust [.refuse, .hang] .refuse false]).scene.transport.outcome k ≠ .accept := by
    decide
  obtain ⟨-, hclocked, hschedule⟩ := calls_on_schedule impatient rfl
  have hafter := fun sleeps ↦ hschedule [.adjust [.refuse, .hang] .refuse false] _ none sleeps
    rfl rfl rfl rfl hfails
  obtain ⟨time, hstart, hsucc, hnow, hcalls⟩ := hafter [30, 1000]
  have hfirst : time 1 = 10 := by
    rw [hsucc, hstart]
    decide
  have hsecond : time 2 = 80 := by
    rw [hsucc, hfirst]
    decide
  have hopens := hcalls.spent (hnow ▸ hsecond.trans_le (by decide))
  have htimes : ((List.range 3).map time).reverse ++ [] = [80, 10, 0] := by
    change [time 2, time 1, time 0] = [80, 10, 0]
    rw [hsecond, hfirst, hstart]
    rfl
  -- The scene rests before each sleep.
  obtain ⟨_, -, -, -, hsettled⟩ := hafter []
  obtain ⟨_, -, -, -, hslept⟩ := hafter [30]
  have hbench : Runs impatient
      ((Bench.initial impatient).play [.adjust [.refuse, .hang] .refuse false]).scene :=
    .adjust .initial [.refuse, .hang] .refuse false
  have hcalled := (hbench.command (.connect none)).settle
  have hruns := (hcalled.sleep hsettled.rests 30).sleep hslept.rests 1000
  obtain ⟨inputs, hrun⟩ := (hclocked (by decide) _ hruns).2
  have htimed : Client.Timed impatient (.initial impatient) 0 inputs 1030 :=
    (congrArg (Client.Timed impatient (.initial impatient) 0 inputs) hnow).mp hrun.timed
  have hmade := hrun.opens.symm.trans (hopens.trans htimes)
  exact ⟨rfl, _, rfl, rfl, rfl, rfl, hfails, hopens.trans htimes, inputs, htimed,
    List.reverse_eq_iff.1 hmade⟩

end EventFeed.Scenario
