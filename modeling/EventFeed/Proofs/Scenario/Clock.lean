import EventFeed.Proofs.Connection.Backoff
import EventFeed.Proofs.Connection.Timing
import EventFeed.Proofs.Scenario.Perform

/-!
# Scenes under the clock

A scene at one time takes what the transport has for its client and what is due, and then rests
until the clock moves, which it does up to the next deadline at most. Where every try has to wait,
the inputs at one time are no more than `settle` allows (`toDo`). So what the client of a scene has
taken is a timed run, whatever is done to the scene from outside (`Runs.clocked`).
-/

namespace EventFeed.Scenario

open Connection
open Connection.Client (Reaction)

/-! ## What is taken at one time -/

/-- What a transport has for a client. -/
def IsDelivery : Input → Prop
  | .opened _ | .refused .. | .frame .. | .failed .. | .closed _ => True
  | _ => False

/-- How many inputs a client takes before it waits, apart from deliveries. -/
def toDo (s : Client) (now : Nat) : Nat :=
  match s.link with
  | .waiting _ => 3
  | .opening .. => 1
  | .open _ => if s.keepalive.isDue now then 1 else 0
  | .idle => if s.retry.any (· ≤ now) then 4 else 0

section Work

variable {c : Config} {m : Moment} {s s' : Client} {i : Input} {effects : List Effect}

theorem toDo_le (s : Client) (now : Nat) : toDo s now ≤ 4 := by
  rw [toDo]
  split
  · decide
  · decide
  · split <;> decide
  · split <;> decide

/-- The try after a loss has to wait. -/
theorem toDo_lose (hwaits : 0 < c.backoff.baseMillis) (hretry : s.retry = none) (now : Nat) :
    toDo (s.lose c now) now = 0 := by
  have hdelay : 0 < c.backoff.delayMillis (s.attempts + 1) :=
    hwaits.trans_le (Backoff.baseMillis_le_delayMillis c.backoff _)
  have hlater : (s.lose c now).retry.any (· ≤ now) = false := by
    rw [Client.lose]
    split
    · simpa using hdelay.ne'
    · simp [hretry]
  simp [toDo, hlater]

/-- A client has no more to do after a delivery than before it. -/
theorem toDo_delivery (hwaits : 0 < c.backoff.baseMillis) (hs : Settled c s)
    (r : Reaction c m s i s' effects) (hi : IsDelivery i) : toDo s' m.now ≤ toDo s m.now := by
  have hlost : s.link ≠ .idle → toDo (s.lose c m.now) m.now ≤ toDo s m.now := fun hheld ↦
    (toDo_lose hwaits (hs.retry_eq_none hheld) m.now).trans_le (Nat.zero_le _)
  cases r with
  | ignored => exact le_rfl
  | heard => exact le_rfl
  | opened hlink =>
      simp only [toDo, Client.accept, hlink]
      split <;> decide
  | broken hlink =>
      have hretry := hs.retry_eq_none (by simp [hlink])
      exact (toDo_lose (s := s.accept _) hwaits hretry m.now).trans_le (Nat.zero_le _)
  | failed hfails => exact hlost hfails.link_ne_idle
  | closed hlink => exact hlost (by simp [hlink])
  | _ => exact hi.elim

/-- A ping that is due is sent, or the connection is lost. -/
theorem toDo_ping (hwaits : 0 < c.backoff.baseMillis) (hs : Settled c s)
    (hpunctual : s.Punctual m.now) (hdue : s.keepalive.isDue m.now = true)
    (r : Reaction c m s .ping s' effects) : toDo s' m.now < toDo s m.now := by
  have hopen := hs.isOpen_of_isDue hdue
  obtain ⟨call, hlink⟩ := Link.isOpen_iff.1 hopen
  have hone : toDo s m.now = 1 := by simp [toDo, hlink, hdue]
  rw [hone, Nat.lt_one_iff]
  cases r with
  | ignored hi =>
      rcases hi with hstopped | hnot
      · simp [hs.stopped_eq_false (by simp [hlink])] at hstopped
      · simp [Client.Ignores, hdue] at hnot
  | pinged =>
      have hperiod := (hs.keepalive.1 (Keepalive.isRunning_of_isDue hdue)).2
      rw [← hs.period] at hperiod
      have hlater : (s.keepalive.tick m.now).isDue m.now = false :=
        Keepalive.isDue_eq_false fun _ ↦
          Keepalive.lt_next_tick (Client.punctual_iff.1 hpunctual).1 hperiod
      simp [toDo, hlink, hlater]
  | failed => exact toDo_lose hwaits (hs.retry_eq_none (by simp [hlink])) m.now

theorem toDo_expired (hwaits : 0 < c.backoff.baseMillis) (hs : Settled c s) {call deadline : Nat}
    (hlink : s.link = .opening call deadline) (hdue : deadline ≤ m.now) :
    toDo (s.step c m .expired).1 m.now < toDo s m.now := by
  have hone : toDo s m.now = 1 := by simp [toDo, hlink]
  rw [hone, Nat.lt_one_iff, Client.step_of_fails hs (.expired (c := c) (m := m) hlink hdue)]
  exact toDo_lose hwaits (hs.retry_eq_none (by simp [hlink])) m.now

theorem toDo_retry (hs : Settled c s) (hdue : s.retry.any (· ≤ m.now) = true) :
    toDo (s.step c m .retry).1 m.now < toDo s m.now := by
  obtain ⟨time, htime, hle⟩ := (Option.any_eq_true _ _).1 hdue
  have hlink : s.link = .idle := (hs.retry (by simp [htime])).1
  have hfour : toDo s m.now = 4 := by simp [toDo, hlink, hdue]
  rw [hfour, Client.step_retry hs htime (of_decide_eq_true hle)]
  simp [toDo, Client.dial]

end Work

/-! ## The clock -/

section Clock

variable {c : Config} {s : Scene} {time target d : Nat}

/-- What is due keeps a scene from resting. -/
theorem lt_deadline (hnext : s.next? = none) (hd : d ∈ s.client.deadlines) : s.now < d := by
  by_contra hge
  have hdue : d ≤ s.now := Nat.le_of_not_lt hge
  rw [Scene.next?] at hnext
  split at hnext
  · cases hnext
  · cases hnext
  · rcases Client.mem_deadlines.1 hd with hkeepalive | hretry | ⟨call, hlink⟩
    · simp [Keepalive.isDue, hkeepalive, hdue] at hnext
    · simp only [hretry, Option.any_some, hdue, decide_true, ↓reduceIte] at hnext
      split at hnext <;> cases hnext
    · simp only [hlink, hdue, ↓reduceIte] at hnext
      split_ifs at hnext

theorem deadline?_eq (h : Settled c s.client) (limit : Nat) :
    s.deadline? limit = (s.client.deadlines.filter (· ≤ limit)).min? := by
  rw [Scene.deadline?]
  split
  · rename_i hstopped
    obtain ⟨hlink, hretry⟩ := h.closing (h.stopped hstopped)
    have hkeepalive : s.client.keepalive.next = none := by
      simpa [Keepalive.isRunning] using h.isRunning_eq_false (by simp [hlink, Link.isOpen])
    simp [Client.deadlines, hlink, hretry, hkeepalive]
  · rfl

theorem deadline?_eq_none_iff (h : Settled c s.client) :
    s.deadline? target = none ↔ ∀ d ∈ s.client.deadlines, target < d := by
  rw [deadline?_eq h, List.min?_eq_none_iff, List.filter_eq_nil_iff]
  simp

theorem deadline?_eq_some_iff (h : Settled c s.client) :
    s.deadline? target = some time ↔
      time ∈ s.client.deadlines ∧ time ≤ target ∧ ∀ d ∈ s.client.deadlines, time ≤ d := by
  rw [deadline?_eq h, List.min?_eq_some_iff]
  simp only [List.mem_filter, decide_eq_true_eq, and_imp, and_assoc]
  refine and_congr_right fun _ ↦ and_congr_right fun hle ↦ forall₂_congr fun d _ ↦ ?_
  exact ⟨fun hleast ↦ (Nat.le_total d target).elim hleast hle.trans, fun hleast _ ↦ hleast⟩

/-- What holds of a scene at rest and is kept wherever the clock stops holds after it has slept. -/
theorem sleepWithin_induction {P : Scene → Prop} (hsettled : ∀ s, P s → Settled c s.client)
    (hrests : ∀ s, P s → s.next? = none)
    (hpass : ∀ s time, P s → s.now ≤ time → (∀ d ∈ s.client.deadlines, time ≤ d) →
      P { s with now := time }.settle ∧ { s with now := time }.settle.now = time)
    {bound : Nat} (h : P s) (hle : s.now ≤ target) (hbound : target < s.now + bound) :
    P (s.sleepWithin target bound) ∧ (s.sleepWithin target bound).now = target := by
  induction bound generalizing s with
  | zero => omega
  | succ bound ih =>
      rw [Scene.sleepWithin]
      cases htime : s.deadline? target with
      | none =>
          have hlater := (deadline?_eq_none_iff (hsettled s h)).1 htime
          exact hpass s target h hle fun d hd ↦ (hlater d hd).le
      | some time =>
          obtain ⟨hmem, hdue, hleast⟩ := (deadline?_eq_some_iff (hsettled s h)).1 htime
          -- The clock moves on, so the bound on the number of stops is enough.
          have hlt := lt_deadline (hrests s h) hmem
          obtain ⟨hnext, hnow⟩ := hpass s time h hlt.le hleast
          simp only [Nat.max_eq_right hlt.le]
          exact ih hnext (hnow.trans_le hdue) (by omega)

theorem sleep_induction {P : Scene → Prop} (hsettled : ∀ s, P s → Settled c s.client)
    (hrests : ∀ s, P s → s.next? = none)
    (hpass : ∀ s time, P s → s.now ≤ time → (∀ d ∈ s.client.deadlines, time ≤ d) →
      P { s with now := time }.settle ∧ { s with now := time }.settle.now = time)
    (h : P s) (millis : Nat) :
    P (s.sleep millis) ∧ (s.sleep millis).now = s.now + millis :=
  sleepWithin_induction hsettled hrests hpass h (Nat.le_add_right _ _) (by omega)

end Clock

/-! ## Timed runs of scenes -/

/-- A scene whose client has taken these inputs under the clock. -/
structure Clocked (c : Config) (inputs : List (Moment × Input)) (s : Scene) : Prop where
  config : s.config = c
  client : s.client = Client.after c inputs
  timed : Client.Timed c (.initial c) 0 inputs s.now
  /-- The calls on the transport are those of the run. -/
  opens : s.transport.opens.map Prod.fst = (Client.openTimes c (.initial c) inputs).reverse
  inbox : ∀ i ∈ s.transport.inbox, IsDelivery i

/-- A scene that is acted on from outside, and sleeps only when it is at rest. -/
inductive Runs (c : Config) : Scene → Prop
  | initial : Runs c (.initial c)
  | adjust {s : Scene} (h : Runs c s) (script : List Outcome) (fallback : Outcome)
      (failSends : Bool) :
      Runs c { s with transport := { s.transport with script, fallback, failSends } }
  | push {s : Scene} (h : Runs c s) (text : String) :
      Runs c { s with transport := (s.transport.push text).1 }
  | fail {s : Scene} (h : Runs c s) (f : Fault) :
      Runs c { s with transport := (s.transport.fail f).1 }
  | drop {s : Scene} (h : Runs c s) : Runs c { s with transport := s.transport.drop.1 }
  | command {s : Scene} (h : Runs c s) (command : Command) : Runs c (s.command command)
  | settle {s : Scene} (h : Runs c s) : Runs c s.settle
  | sleep {s : Scene} (h : Runs c s) (hrests : s.next? = none) (millis : Nat) :
      Runs c (s.sleep millis)

section Deliveries

variable {s : Scene} {effects : List Effect}

theorem deliveries_deliver {t : Transport} (h : ∀ i ∈ t.inbox, IsDelivery i) {i : Input}
    (hi : IsDelivery i) : ∀ x ∈ (t.deliver i).inbox, IsDelivery x := by
  intro x hx
  rcases List.mem_append.1 hx with hx | hx
  · exact h x hx
  · rw [List.mem_singleton.1 hx]
    exact hi

theorem deliveries_open {t : Transport} (h : ∀ i ∈ t.inbox, IsDelivery i) (now call : Nat)
    (url : String) : ∀ i ∈ (t.open now call url).inbox, IsDelivery i := by
  rw [Transport.open]
  cases t.nextOutcome with
  | accept => exact deliveries_deliver h (i := .opened call) trivial
  | refuse => exact deliveries_deliver h (i := .refused call Transport.openFault) trivial
  | hang => exact h

/-- What the transport comes to have for a client when effects are carried out is delivered. -/
theorem deliveries_foldl (h : ∀ i ∈ s.transport.inbox, IsDelivery i) :
    ∀ i ∈ (effects.foldl Scene.perform s).transport.inbox, IsDelivery i := by
  induction effects generalizing s with
  | nil => exact h
  | cons e effects ih =>
      refine ih ?_
      cases e with
      | «open» call url => exact deliveries_open h _ _ _
      | _ => exact h

theorem length_inbox_open (t : Transport) (now call : Nat) (url : String) :
    (t.open now call url).inbox.length ≤ t.inbox.length + 1 := by
  rw [Transport.open]
  cases t.nextOutcome <;> simp [Transport.deliver]

end Deliveries

/-- What a scene has to do at its time. -/
def pending (s : Scene) : Nat := s.transport.inbox.length + toDo s.client s.now

namespace Clocked

variable {c : Config} {inputs : List (Moment × Input)} {s s' : Scene} {i : Input}

theorem initial (c : Config) : Clocked c [] (.initial c) :=
  ⟨rfl, rfl, .start, rfl, nofun⟩

theorem settled (h : Clocked c inputs s) : Settled c s.client :=
  h.client ▸ Client.settled_after c inputs

theorem punctual (h : Clocked c inputs s) : s.client.Punctual s.now :=
  h.client ▸ h.timed.punctual (.initial c) fun _ _ ↦ Nat.zero_le _

/-- The transport may be changed, as long as it delivers nothing but deliveries. -/
theorem edit (h : Clocked c inputs s) {t : Transport} (hopens : t.opens = s.transport.opens)
    (hinbox : ∀ i ∈ t.inbox, IsDelivery i) : Clocked c inputs { s with transport := t } :=
  ⟨h.config, h.client, h.timed, hopens ▸ h.opens, hinbox⟩

theorem receive (h : Clocked c inputs s) (hi : IsDelivery i) :
    Clocked c inputs { s with transport := s.transport.deliver i } :=
  h.edit rfl (deliveries_deliver h.inbox hi)

theorem take (h : Clocked c inputs s) (i : Input) :
    Clocked c (inputs ++ [(s.moment, i)]) (s.take i) where
  config := by rw [Scene.take_eq, Scene.config_takeAt, h.config]
  client := by
    rw [Scene.take_eq, Scene.client_takeAt, h.config, h.client, Client.after_concat]
  timed := by
    have hnow : (s.take i).now = s.moment.now := by rw [Scene.take_eq, Scene.now_takeAt]; rfl
    rw [hnow]
    exact .take h.timed i
  opens := by
    have hrun : (Client.initial c |>.run c inputs).1 = s.client := h.client.symm
    rw [Scene.take_eq, Scene.takeAt, Scene.opens_foldl, h.config, Client.openTimes_concat, hrun,
      List.reverse_append, ← h.opens]
    rfl
  inbox := deliveries_foldl h.inbox

/-- The clock moves while the scene rests, and passes no deadline. -/
theorem pass (h : Clocked c inputs s) (hrests : s.next? = none) {time : Nat} (hle : s.now ≤ time)
    (hstops : ∀ d ∈ s.client.deadlines, time ≤ d) : Clocked c inputs { s with now := time } := by
  have hcalled : ∀ url, (Client.after c inputs).link ≠ .waiting url := by
    intro url hlink
    rw [← h.client] at hlink
    simp [Scene.next?, hlink] at hrests
  refine ⟨h.config, h.client, ?_, h.opens, h.inbox⟩
  exact h.timed.pass hle hcalled (h.client ▸ hstops)

/-- Only a call can bring something more to the inbox. -/
theorem pending_take (h : Clocked c inputs s) (hi : i ≠ .begin) :
    pending (s.take i) =
      s.transport.inbox.length + toDo (s.client.step c s.moment i).1 s.now := by
  have r := Client.reaction_step h.settled s.moment i
  have hopens := (Client.opens_reaction r).resolve_right fun hbegin ↦ hi hbegin.1
  rw [← h.config] at hopens
  rw [pending, Scene.take_eq, Scene.inbox_takeAt _ _ _ hopens, Scene.client_takeAt,
    Scene.now_takeAt, h.config]

theorem pending_begin (h : Clocked c inputs s) {url : String}
    (hlink : s.client.link = .waiting url) : pending (s.take .begin) < pending s := by
  have hstep := Client.step_begin (h.settled.stopped_eq_false (by simp [hlink])) hlink c s.moment
  have htake : s.take .begin =
      { s with
        client := (s.client.step c s.moment .begin).1
        transport := s.transport.open s.now (s.client.calls + 1) url } := by
    rw [Scene.take_eq, Scene.takeAt, h.config, hstep]
    rfl
  have hinbox := length_inbox_open s.transport s.now (s.client.calls + 1) url
  have hbefore : toDo s.client s.now = 3 := by simp [toDo, hlink]
  rw [htake, hstep, pending, pending, hbefore]
  exact (Nat.add_le_add_right hinbox 1).trans_lt (Nat.lt_succ_self _)

/-- Whatever a scene takes next leaves it with less to do. -/
theorem step (h : Clocked c inputs s) (hwaits : 0 < c.backoff.baseMillis) (hnext : s.Next i s') :
    Clocked c (inputs ++ [(s.moment, i)]) (s'.take i) ∧ pending (s'.take i) < pending s := by
  have hs := h.settled
  have r := Client.reaction_step hs s.moment i
  cases hnext with
  | begin hlink => exact ⟨h.take _, h.pending_begin hlink⟩
  | @delivery _ inbox hlink hinbox =>
      obtain ⟨hi, hlater⟩ := List.forall_mem_cons.1 (hinbox ▸ h.inbox)
      have hbegin : i ≠ .begin := by
        rintro rfl
        exact hi
      have hless : toDo (s.client.step c s.moment i).1 s.now ≤ toDo s.client s.now :=
        toDo_delivery hwaits hs r hi
      have hrest : Clocked c inputs { s with transport := { s.transport with inbox } } :=
        h.edit rfl hlater
      refine ⟨hrest.take i, (hrest.pending_take hbegin).trans_lt ?_⟩
      rw [pending, hinbox, List.length_cons]
      exact Nat.add_lt_add_of_lt_of_le (Nat.lt_succ_self _) hless
  | ping hdue =>
      refine ⟨h.take _, (h.pending_take (by simp)).trans_lt ?_⟩
      exact Nat.add_lt_add_left (toDo_ping hwaits hs h.punctual hdue r) _
  | retry hdue =>
      refine ⟨h.take _, (h.pending_take (by simp)).trans_lt ?_⟩
      exact Nat.add_lt_add_left (toDo_retry hs hdue) _
  | expired hlink hdue =>
      refine ⟨h.take _, (h.pending_take (by simp)).trans_lt ?_⟩
      exact Nat.add_lt_add_left (toDo_expired hwaits hs hlink hdue) _

theorem settleWithin (h : Clocked c inputs s) (hwaits : 0 < c.backoff.baseMillis) {bound : Nat}
    (hbound : pending s ≤ bound) :
    ∃ inputs', Clocked c inputs' (s.settleWithin bound) ∧ (s.settleWithin bound).next? = none ∧
      (s.settleWithin bound).now = s.now := by
  induction bound generalizing s inputs with
  | zero =>
      cases hnext : s.next? with
      | none => exact ⟨inputs, h, hnext, rfl⟩
      | some x =>
          have hless := (h.step hwaits (Scene.next_of_next? hnext)).2
          omega
  | succ bound ih =>
      rw [Scene.settleWithin]
      cases hnext : s.next? with
      | none => exact ⟨inputs, h, hnext, rfl⟩
      | some x =>
          obtain ⟨hclocked, hless⟩ := h.step hwaits (Scene.next_of_next? hnext)
          obtain ⟨inputs', hlast, hrests, hnow⟩ := ih hclocked (by omega)
          refine ⟨inputs', hlast, hrests, hnow.trans ?_⟩
          rw [Scene.take_eq, Scene.now_takeAt, Scene.now_of_next? hnext]

theorem settle (h : Clocked c inputs s) (hwaits : 0 < c.backoff.baseMillis) :
    ∃ inputs', Clocked c inputs' s.settle ∧ s.settle.next? = none ∧ s.settle.now = s.now := by
  have hle := toDo_le s.client s.now
  refine h.settleWithin hwaits ?_
  rw [pending]
  omega

theorem sleep (h : Clocked c inputs s) (hwaits : 0 < c.backoff.baseMillis)
    (hrests : s.next? = none) (millis : Nat) :
    ((∃ inputs', Clocked c inputs' (s.sleep millis)) ∧ (s.sleep millis).next? = none) ∧
      (s.sleep millis).now = s.now + millis := by
  refine sleep_induction (c := c)
    (P := fun s ↦ (∃ inputs, Clocked c inputs s) ∧ s.next? = none) ?_ ?_ ?_
    ⟨⟨inputs, h⟩, hrests⟩ millis
  · rintro s ⟨⟨inputs, h⟩, -⟩
    exact h.settled
  · exact fun _ h ↦ h.2
  · rintro s time ⟨⟨inputs, h⟩, hrests⟩ hle hstops
    obtain ⟨inputs', hlast, hrests', hnow⟩ := (h.pass hrests hle hstops).settle hwaits
    exact ⟨⟨⟨inputs', hlast⟩, hrests'⟩, hnow⟩

end Clocked

section Runs

variable {c : Config} {s : Scene}

/-- Where every try has to wait, what the client of a scene has taken is a timed run. -/
theorem Runs.clocked (h : Runs c s) (hwaits : 0 < c.backoff.baseMillis) :
    ∃ inputs, Clocked c inputs s := by
  induction h with
  | initial => exact ⟨[], .initial c⟩
  | adjust h script fallback failSends ih =>
      obtain ⟨inputs, hclocked⟩ := ih
      exact ⟨inputs, hclocked.edit rfl hclocked.inbox⟩
  | @push s h text ih =>
      obtain ⟨inputs, hclocked⟩ := ih
      refine ⟨inputs, ?_⟩
      rw [Transport.push]
      cases s.transport.live with
      | none => exact hclocked
      | some call => exact hclocked.receive (i := .frame call text) trivial
  | @fail s h f ih =>
      obtain ⟨inputs, hclocked⟩ := ih
      refine ⟨inputs, ?_⟩
      rw [Transport.fail]
      cases s.transport.live with
      | none => exact hclocked
      | some call => exact hclocked.receive (i := .failed call f) trivial
  | @drop s h ih =>
      obtain ⟨inputs, hclocked⟩ := ih
      refine ⟨inputs, ?_⟩
      rw [Transport.drop]
      cases s.transport.live with
      | none => exact hclocked
      | some call =>
          have hdead : Clocked c inputs { s with transport := { s.transport with live := none } } :=
            hclocked.edit rfl hclocked.inbox
          exact hdead.receive (i := .closed call) trivial
  | command h command ih =>
      obtain ⟨inputs, hclocked⟩ := ih
      exact ⟨_, hclocked.take _⟩
  | settle h ih =>
      obtain ⟨inputs, hclocked⟩ := ih
      obtain ⟨inputs', hlast, -⟩ := hclocked.settle hwaits
      exact ⟨inputs', hlast⟩
  | sleep h hrests millis ih =>
      obtain ⟨inputs, hclocked⟩ := ih
      exact (hclocked.sleep hwaits hrests millis).1.1

end Runs

end EventFeed.Scenario
