import EventFeed.Proofs.Scenario.Perform
import Mathlib.Logic.Function.Iterate

/-!
# A client on a bench

A bench is a client on the scripted transport, with a record of what the client was given and of
the connections that the transport has accepted and its peer has dropped. It can be acted on in any
order. A call is answered at once, after what old connections have left in the inbox; `Sound` is
what holds while it is under way and, with nothing pending, between two acts. The main result is
`connections_accounted`: every connection is accounted for, by the client and by the transport.
-/

namespace EventFeed.Scenario

open Connection
open Connection.Client (after history joined parted discarded)

/-- A scene, with what its client was given, and with the connections that were accepted and those
that their peer has dropped, the latest first. -/
structure Bench where
  scene : Scene
  inputs : List (Moment × Input)
  accepted : List Nat
  dropped : List Nat

inductive Act where
  | adjust (script : List Outcome) (fallback : Outcome) (failSends : Bool)
  | push (text : String)
  | fail (fault : Fault)
  | drop
  | wait (millis : Nat)
  | command (command : Command)
  /-- The call that is waiting is made, and is answered or hangs. -/
  | call
  | deliver
  | ping
  | retry
  | expire

namespace Bench

def initial (c : Config) : Bench := ⟨.initial c, [], [], []⟩

def edit (b : Bench) (f : Transport → Transport) : Bench :=
  { b with scene := { b.scene with transport := f b.scene.transport } }

def take (b : Bench) (i : Input) : Bench :=
  { b with scene := b.scene.take i, inputs := b.inputs ++ [(b.scene.moment, i)] }

def deliver (b : Bench) : Bench :=
  match b.scene.transport.inbox with
  | [] => b
  | i :: inbox => (b.edit fun t ↦ { t with inbox }).take i

def begin (b : Bench) : Bench :=
  { b.take .begin with
    accepted :=
      if b.scene.transport.nextOutcome = .accept then (b.scene.client.calls + 1) :: b.accepted
      else b.accepted }

def call (b : Bench) : Bench :=
  match b.scene.client.link with
  | .waiting _ => deliver^[b.begin.scene.transport.inbox.length] b.begin
  | _ => b

def act (b : Bench) : Act → Bench
  | .adjust script fallback failSends => b.edit fun t ↦ { t with script, fallback, failSends }
  | .push text => b.edit fun t ↦ (t.push text).1
  | .fail fault => b.edit fun t ↦ (t.fail fault).1
  | .drop =>
    { b.edit fun t ↦ t.drop.1 with dropped := b.scene.transport.live.toList ++ b.dropped }
  | .wait millis => { b with scene := { b.scene with now := b.scene.now + millis } }
  | .command command => b.take (.command command)
  | .call => b.call
  | .deliver => b.deliver
  | .ping => b.take .ping
  | .retry => b.take .retry
  | .expire => b.take .expired

def play (b : Bench) (acts : List Act) : Bench := acts.foldl act b

@[simp] theorem scene_take (b : Bench) (i : Input) :
    (b.take i).scene = b.scene.takeAt b.scene.moment i := Scene.take_eq _ _

@[simp] theorem inputs_take (b : Bench) (i : Input) :
    (b.take i).inputs = b.inputs ++ [(b.scene.moment, i)] := rfl

@[simp] theorem accepted_take (b : Bench) (i : Input) : (b.take i).accepted = b.accepted := rfl

@[simp] theorem dropped_take (b : Bench) (i : Input) : (b.take i).dropped = b.dropped := rfl

theorem scene_begin (b : Bench) : b.begin.scene = b.scene.takeAt b.scene.moment .begin := rfl

theorem inputs_begin (b : Bench) : b.begin.inputs = b.inputs ++ [(b.scene.moment, .begin)] := rfl

/-- The accounts of a bench, where `fresh` are the connections that the transport has accepted but
the client does not have yet. -/
structure Ledger (c : Config) (b : Bench) (fresh : List Nat) : Prop where
  config : b.scene.config = c
  client : b.scene.client = after c b.inputs
  closes : b.scene.transport.closes = (closed (history c b.inputs)).length
  live : ∀ n, b.scene.transport.live = some n ↔
    (b.scene.client.link = .open n ∨ n ∈ fresh) ∧ n ∉ b.dropped
  accepted : b.accepted = (joined c b.inputs ++ fresh).reverse
  dropped : ∀ n ∈ b.dropped, n ≤ b.scene.client.calls

section Steps

variable {c : Config} {b : Bench} {fresh : List Nat} {i : Input}

/-- The connection that is live after a step. What the client closes is what it had, and what it
loses without closing it was dropped before. -/
theorem live_iff_of_handover {m : Moment} {s s' : Client} {effects : List Effect}
    {live : Option Nat} {dropped : List Nat} (h : Client.Handover m s i s' effects)
    (hpeer : ∀ n, (n, .byPeer) ∈ s.parts m i → n ∈ dropped)
    (hlive : ∀ n, live = some n ↔ (s.link = .open n ∨ n ∈ s.joins i) ∧ n ∉ dropped) (n : Nat) :
    Scene.liveAfter live (closed effects) = some n ↔ s'.link = .open n ∧ n ∉ dropped := by
  -- Before it loses any the client has one connection at most: its own or the one it is brought.
  obtain ⟨had, hlist, hhad⟩ : ∃ had : Option Nat,
      s.link.connection?.toList ++ s.joins i = had.toList ∧
        ∀ n, (s.link = .open n ∨ n ∈ s.joins i) ↔ had = some n := by
    rcases s.joins_cases i with hjoins | ⟨call, deadline, hlink, hjoins⟩
    · exact ⟨s.link.connection?, by simp [hjoins],
        by simp [hjoins, Link.connection?_eq_some_iff]⟩
    · exact ⟨some call, by simp [hjoins, hlink, Link.connection?], by simp [hjoins, hlink, eq_comm]⟩
  have hbalance := hlist.symm.trans h.balance
  have hclosed := h.closed
  simp only [hhad] at hlive
  cases hparts : s.parts m i with
  | nil =>
      have hsame : had = s'.link.connection? := by
        simpa [hparts] using congrArg List.head? hbalance
      rw [hclosed, hparts, ← Link.connection?_eq_some_iff, ← hsame]
      exact hlive n
  | cons part rest =>
      obtain ⟨call, e⟩ := part
      rw [hparts, List.map_cons, List.cons_append] at hbalance
      obtain ⟨rfl, hrest⟩ : had = some call ∧
          rest.map Prod.fst ++ s'.link.connection?.toList = [] := by
        cases had <;> simp_all
      obtain ⟨hrest, hgone⟩ := List.append_eq_nil_iff.1 hrest
      have hidle : s'.link ≠ .open n := by
        rw [Ne, ← Link.connection?_eq_some_iff, Option.toList_eq_nil_iff.1 hgone]
        simp
      rw [hclosed, hparts, List.map_eq_nil_iff.1 hrest]
      refine iff_of_false ?_ fun hopen ↦ hidle hopen.1
      by_cases he : e = .byPeer
      · have hmem : call ∈ dropped := hpeer call (by simp [hparts, he])
        intro hn
        have hn : live = some n := by simpa [he, discarded, Scene.liveAfter] using hn
        obtain ⟨hcall, hnot⟩ := (hlive n).1 hn
        exact hnot (Option.some.inj hcall ▸ hmem)
      · have heq : Scene.liveAfter live (discarded [(call, e)]) =
            if live = some call then none else live := by simp [he, discarded, Scene.liveAfter]
        rw [heq]
        split
        · simp
        · rename_i hne
          intro hn
          exact hne (hn.trans ((hlive n).1 hn).1.symm)

theorem Ledger.concat (h : Ledger c b (b.scene.client.joins i)) (hi : i ≠ .begin)
    (hclosed : ∀ n, i = .closed n → n ∈ b.dropped) :
    Ledger c (b.take i) [] ∧ (b.take i).scene.transport.inbox = b.scene.transport.inbox := by
  have hconfig := h.config
  have hsettled : Settled c b.scene.client := h.client ▸ Client.settled_after c b.inputs
  have r := Client.reaction_step hsettled b.scene.moment i
  have hstep := Client.handover_reaction hsettled r
  have hopens := (Client.opens_reaction r).resolve_right fun hbegin ↦ hi hbegin.1
  have hpeer : ∀ n, (n, .byPeer) ∈ b.scene.client.parts b.scene.moment i → n ∈ b.dropped :=
    fun n hn ↦ hclosed n (Client.eq_closed_of_byPeer hn)
  refine ⟨⟨?_, ?_, ?_, ?_, ?_, ?_⟩, ?_⟩
  · rw [scene_take, Scene.config_takeAt, hconfig]
  · rw [scene_take, Scene.client_takeAt, hconfig, inputs_take, Client.after_concat, h.client]
  · rw [scene_take, Scene.closes_takeAt, hconfig, inputs_take, Client.history_concat, closed_append,
      List.length_append, h.closes, h.client]
  · intro n
    have hlive := live_iff_of_handover hstep hpeer h.live n
    rw [scene_take, Scene.live_takeAt _ _ _ (hconfig ▸ hopens), Scene.client_takeAt, hconfig, hlive]
    simp
  · rw [accepted_take, inputs_take, Client.joined_concat, ← h.client, List.append_nil, h.accepted]
  · intro n hn
    rw [scene_take, Scene.client_takeAt, hconfig]
    exact (h.dropped n hn).trans (Client.calls_le_reaction r)
  · rw [scene_take, Scene.inbox_takeAt _ _ _ (hconfig ▸ hopens)]

/-- What connections bring once they are there; that its peer has closed one comes after the peer
has dropped it. -/
def IsNews (dropped : List Nat) : Input → Prop
  | .frame .. => True
  | .failed .. => True
  | .closed call => call ∈ dropped
  | _ => False

theorem IsNews.joins_eq_nil {dropped : List Nat} (hi : IsNews dropped i) (s : Client) :
    s.joins i = [] := by
  cases i with
  | opened call => exact hi.elim
  | _ => rfl

/-- Without a connection there is no news. -/
theorem IsNews.step_eq {dropped : List Nat} (hi : IsNews dropped i) {s : Client}
    (hopen : s.link.isOpen = false) (c : Config) (m : Moment) : s.step c m i = (s, []) := by
  have hne : ∀ n, s.link ≠ .open n := fun n hlink ↦ by simp [hlink, Link.isOpen] at hopen
  cases i with
  | frame call text => simp [Client.step, Turn.take, Turn.ofClient, hne]
  | failed call f => simp [Client.step, Turn.take, Turn.ofClient, hne]
  | closed call => simp [Client.step, Turn.take, Turn.ofClient, hne]
  | _ => exact hi.elim

theorem Ledger.concat_news (h : Ledger c b fresh) (hopen : b.scene.client.link.isOpen = false)
    (hi : IsNews b.dropped i) : Ledger c (b.take i) fresh ∧ (b.take i).scene = b.scene := by
  have hstep := hi.step_eq hopen b.scene.config b.scene.moment
  have hscene : (b.take i).scene = b.scene := by
    rw [scene_take, Scene.takeAt, hstep]
    rfl
  have hjoins := hi.joins_eq_nil b.scene.client
  rw [h.config, h.client] at hstep
  refine ⟨⟨?_, ?_, ?_, ?_, ?_, ?_⟩, hscene⟩
  · rw [hscene, h.config]
  · rw [hscene, inputs_take, Client.after_concat, hstep, h.client]
  · rw [hscene, inputs_take, Client.history_concat, hstep, List.append_nil, h.closes]
  · rw [hscene]
    exact h.live
  · rw [accepted_take, inputs_take, Client.joined_concat, ← h.client, hjoins, List.append_nil,
      h.accepted]
  · rw [hscene]
    exact h.dropped

/-- The answer that is under way to the call of a link, and the connection it brings. -/
inductive Awaited (link : Link) : List Input → List Nat → Prop
  | nothing : Awaited link [] []
  | acceptance {call deadline : Nat} (h : link = .opening call deadline) :
      Awaited link [.opened call] [call]
  | refusal {call deadline : Nat} {f : Fault} (h : link = .opening call deadline) :
      Awaited link [.refused call f] []

/-- The accounts of a bench, with an answer that may be under way behind the news. -/
structure Sound (c : Config) (b : Bench) (pending : List Input) (fresh : List Nat) : Prop extends
    Ledger c b fresh where
  awaited : Awaited b.scene.client.link pending fresh
  inbox : ∃ news, b.scene.transport.inbox = news ++ pending ∧ ∀ i ∈ news, IsNews b.dropped i

variable {pending : List Input}

theorem Ledger.edit (h : Ledger c b fresh) {f : Transport → Transport}
    (hcloses : (f b.scene.transport).closes = b.scene.transport.closes)
    (hlive : (f b.scene.transport).live = b.scene.transport.live) : Ledger c (b.edit f) fresh where
  config := h.config
  client := h.client
  closes := hcloses.trans h.closes
  live n := by
    have hbefore := h.live n
    rw [← hlive] at hbefore
    exact hbefore
  accepted := h.accepted
  dropped := h.dropped

theorem deliver_eq {inbox : List Input} (h : b.scene.transport.inbox = i :: inbox) :
    b.deliver = (b.edit fun t ↦ { t with inbox }).take i := by
  simp [deliver, h]

theorem dropped_deliver (b : Bench) : b.deliver.dropped = b.dropped := by
  cases h : b.scene.transport.inbox with
  | nil => simp [deliver, h]
  | cons i inbox =>
      rw [deliver_eq h]
      rfl

/-- The answer itself is taken last. -/
theorem Sound.deliver_answer (h : Ledger c b (b.scene.client.joins i)) (hi : i ≠ .begin)
    (hclosed : ∀ n, i ≠ .closed n) (hinbox : b.scene.transport.inbox = [i]) :
    Sound c b.deliver [] [] := by
  have hledger := h.edit (f := fun t ↦ { t with inbox := [] }) rfl rfl
  obtain ⟨hledger, hempty⟩ := hledger.concat hi fun n hn ↦ absurd hn (hclosed n)
  rw [← deliver_eq hinbox] at hledger hempty
  exact ⟨hledger, .nothing, [], hempty, by simp⟩

theorem Sound.deliver_news {news : List Input} (h : Sound c b pending fresh)
    (hopen : b.scene.client.link.isOpen = false) (hi : IsNews b.dropped i)
    (hnews : ∀ x ∈ news, IsNews b.dropped x)
    (hinbox : b.scene.transport.inbox = i :: (news ++ pending)) :
    Sound c b.deliver pending fresh ∧ b.deliver.scene.client.link = b.scene.client.link ∧
      b.deliver.scene.transport.inbox = news ++ pending := by
  have hledger := h.toLedger.edit (f := fun t ↦ { t with inbox := news ++ pending }) rfl rfl
  obtain ⟨hledger, hscene⟩ := hledger.concat_news hopen hi
  rw [← deliver_eq hinbox] at hledger hscene
  have hrest : b.deliver.scene.transport.inbox = news ++ pending := by
    rw [hscene]
    rfl
  have hlink : b.deliver.scene.client.link = b.scene.client.link := by
    rw [hscene]
    rfl
  exact ⟨⟨hledger, hlink ▸ h.awaited, news, hrest, b.dropped_deliver ▸ hnews⟩, hlink, hrest⟩

/-- An answer is taken when all news before it have been taken. -/
theorem Sound.drain (h : Sound c b pending fresh) (hopen : b.scene.client.link.isOpen = false) :
    Sound c (deliver^[b.scene.transport.inbox.length] b) [] [] := by
  obtain ⟨news, hinbox, hnews⟩ := h.inbox
  induction news generalizing b with
  | nil =>
      have hledger := h.toLedger
      rw [hinbox]
      cases h.awaited with
      | nothing => exact h
      | @acceptance call deadline hlink =>
          rw [← Client.joins_of_opening hlink] at hledger
          exact .deliver_answer hledger (by simp) (by simp) hinbox
      | @refusal call deadline f hlink =>
          exact .deliver_answer (i := .refused call f) hledger (by simp) (by simp) hinbox
  | cons i news ih =>
      obtain ⟨hnow, hlater⟩ := List.forall_mem_cons.1 hnews
      obtain ⟨hnext, hlink, hrest⟩ := h.deliver_news hopen hnow hlater hinbox
      have hdrained := ih hnext (hlink ▸ hopen) hrest (b.dropped_deliver ▸ hlater)
      rw [hinbox, List.cons_append, List.length_cons, Function.iterate_succ_apply, ← hrest]
      exact hdrained

theorem Sound.of_call {s : Client} (h : Ledger c b []) (hawaited : Awaited s.link pending fresh)
    {deadline : Nat} {url : String} (hlink : s.link = .opening s.calls deadline)
    (hcalls : b.scene.client.calls < s.calls)
    (hstep : b.scene.client.step c b.scene.moment .begin = (s, [.open s.calls url]))
    (hinbox : b.begin.scene.transport.inbox = b.scene.transport.inbox ++ pending)
    (hnews : ∀ i ∈ b.scene.transport.inbox, IsNews b.dropped i)
    (hlive : ∀ n, b.begin.scene.transport.live = some n ↔ n ∈ fresh)
    (haccepted : b.begin.accepted = fresh.reverse ++ b.accepted) :
    Sound c b.begin pending fresh := by
  have hclient : b.begin.scene.client = s := by
    rw [scene_begin, Scene.client_takeAt, h.config, hstep]
  have hfresh : ∀ n ∈ fresh, n ∉ b.dropped := by
    intro n hn hdropped
    have hle := h.dropped n hdropped
    cases hawaited with
    | acceptance hopening =>
        cases hlink.symm.trans hopening
        rw [List.mem_singleton] at hn
        omega
    | nothing => simp at hn
    | refusal => simp at hn
  refine ⟨⟨?_, ?_, ?_, ?_, ?_, ?_⟩, hclient ▸ hawaited, b.scene.transport.inbox, hinbox, hnews⟩
  · rw [scene_begin, Scene.config_takeAt, h.config]
  · rw [hclient, inputs_begin, Client.after_concat, ← h.client, hstep]
  · rw [scene_begin, Scene.closes_takeAt, h.config, hstep, inputs_begin, Client.history_concat,
      ← h.client, hstep, closed_append, List.length_append, h.closes]
  · intro n
    rw [hlive, hclient, hlink]
    simp only [reduceCtorEq, false_or]
    exact (and_iff_left_of_imp (hfresh n)).symm
  · have hjoined : joined c b.begin.inputs = joined c b.inputs := by
      rw [inputs_begin, Client.joined_concat]
      exact List.append_nil _
    rw [haccepted, h.accepted, hjoined]
    simp
  · intro n hn
    rw [hclient]
    exact (h.dropped n hn).trans hcalls.le

theorem Sound.begin (h : Sound c b [] []) {url : String}
    (hlink : b.scene.client.link = .waiting url) :
    ∃ pending fresh call deadline, Sound c b.begin pending fresh ∧
      b.begin.scene.client.link = .opening call deadline := by
  have hrunning : b.scene.client.stopped = false := by
    have hsettled : Settled c b.scene.client := h.client ▸ Client.settled_after c b.inputs
    exact hsettled.stopped_eq_false (by simp [hlink])
  have hstep := Client.step_begin hrunning hlink c b.scene.moment
  have hopening : b.begin.scene.client.link = .opening (b.scene.client.calls + 1)
      (b.scene.moment.now + c.connectTimeout.ceilMillis) := by
    rw [scene_begin, Scene.client_takeAt, h.config, hstep]
  have htransport : b.begin.scene.transport =
      b.scene.transport.open b.scene.now (b.scene.client.calls + 1) url := by
    rw [scene_begin, Scene.takeAt, h.config, hstep]
    rfl
  have hdead : b.scene.transport.live = none := by
    have hnone : ∀ n, b.scene.transport.live ≠ some n := fun n hn ↦ by
      simpa [hlink] using ((h.live n).1 hn).1
    simpa [Option.eq_none_iff_forall_ne_some] using hnone
  obtain ⟨news, hinbox, hnews⟩ := h.inbox
  rw [List.append_nil] at hinbox
  rw [← hinbox] at hnews
  have hlt := Nat.lt_succ_self b.scene.client.calls
  cases houtcome : b.scene.transport.nextOutcome with
  | accept =>
      refine ⟨_, _, _, _,
        .of_call h.toLedger (.acceptance rfl) rfl hlt hstep ?_ hnews ?_ ?_, hopening⟩
      · simp [htransport, Transport.open, houtcome, Transport.deliver]
      · simp [htransport, Transport.open, houtcome, Transport.deliver, eq_comm]
      · simp [Bench.begin, houtcome]
  | refuse =>
      refine ⟨_, _, _, _,
        .of_call h.toLedger (.refusal (f := Transport.openFault) rfl) rfl hlt hstep ?_ hnews ?_ ?_,
        hopening⟩
      · simp [htransport, Transport.open, houtcome, Transport.deliver]
      · simp [htransport, Transport.open, houtcome, Transport.deliver, hdead]
      · simp [Bench.begin, houtcome]
  | hang =>
      refine ⟨_, _, _, _,
        .of_call h.toLedger .nothing rfl hlt hstep ?_ hnews ?_ ?_, hopening⟩
      · simp [htransport, Transport.open, houtcome]
      · simp [htransport, Transport.open, houtcome, hdead]
      · simp [Bench.begin, houtcome]

theorem call_of_waiting {url : String} (hlink : b.scene.client.link = .waiting url) :
    b.call = Bench.deliver^[b.begin.scene.transport.inbox.length] b.begin := by
  rw [Bench.call, hlink]

theorem Sound.call (h : Sound c b [] []) : Sound c b.call [] [] := by
  cases hlink : b.scene.client.link with
  | waiting url =>
      obtain ⟨pending, fresh, n, deadline, hbegun, hopening⟩ := h.begin hlink
      rw [call_of_waiting hlink]
      exact hbegun.drain (by simp [hopening, Link.isOpen])
  | _ =>
      rw [Bench.call, hlink]
      exact h

theorem IsNews.mono {dropped dropped' : List Nat} (hi : IsNews dropped i)
    (hle : ∀ n ∈ dropped, n ∈ dropped') : IsNews dropped' i := by
  cases i with
  | closed call => exact hle call hi
  | frame => trivial
  | failed => trivial
  | _ => exact hi.elim

theorem Sound.concat (h : Sound c b [] []) (hi : i ≠ .begin)
    (hjoins : b.scene.client.joins i = []) (hclosed : ∀ n, i ≠ .closed n) :
    Sound c (b.take i) [] [] := by
  have hledger := h.toLedger
  rw [← hjoins] at hledger
  obtain ⟨hledger, hinbox⟩ := hledger.concat hi fun n hn ↦ absurd hn (hclosed n)
  obtain ⟨news, hnews⟩ := h.inbox
  exact ⟨hledger, .nothing, news, hinbox ▸ hnews⟩

theorem Sound.deliver (h : Sound c b [] []) : Sound c b.deliver [] [] := by
  obtain ⟨news, hinbox, hnews⟩ := h.inbox
  rw [List.append_nil] at hinbox
  cases news with
  | nil =>
      have hnone : b.deliver = b := by simp [Bench.deliver, hinbox]
      rw [hnone]
      exact h
  | cons i news =>
      obtain ⟨hi, hlater⟩ := List.forall_mem_cons.1 hnews
      have hledger := h.toLedger.edit (f := fun t ↦ { t with inbox := news }) rfl rfl
      rw [← hi.joins_eq_nil b.scene.client] at hledger
      have hbegin : i ≠ .begin := by
        rintro rfl
        exact hi
      obtain ⟨hledger, hrest⟩ := hledger.concat hbegin (by rintro n rfl; exact hi)
      rw [← deliver_eq hinbox] at hledger hrest
      refine ⟨hledger, .nothing, news, ?_, b.dropped_deliver ▸ hlater⟩
      rw [hrest, List.append_nil]
      rfl

/-- The transport has something more for the client. -/
theorem Sound.receive (h : Sound c b [] []) (hi : IsNews b.dropped i) :
    Sound c (b.edit fun t ↦ t.deliver i) [] [] := by
  obtain ⟨news, hinbox, hnews⟩ := h.inbox
  rw [List.append_nil] at hinbox
  refine ⟨h.toLedger.edit rfl rfl, .nothing, news ++ [i], ?_, ?_⟩
  · rw [List.append_nil, ← hinbox]
    rfl
  · intro x hx
    rcases List.mem_append.1 hx with hx | hx
    · exact hnews x hx
    · rw [List.mem_singleton.1 hx]
      exact hi

theorem Sound.drop (h : Sound c b [] []) : Sound c (b.act .drop) [] [] := by
  cases hlive : b.scene.transport.live with
  | none =>
      have hnone : b.act .drop = b := by
        simp [act, edit, Transport.drop, hlive]
      rw [hnone]
      exact h
  | some call =>
      have hopen : b.scene.client.link = .open call := by simpa using ((h.live call).1 hlive).1
      have hcall : call ≤ b.scene.client.calls := by
        rw [h.client] at hopen ⊢
        exact (Client.synced_after c b.inputs).made call (by rw [hopen]; rfl)
      have hledger : Ledger c
          { b.edit fun t ↦ { t with live := none } with dropped := call :: b.dropped } [] := by
        refine ⟨h.config, h.client, h.closes, ?_, h.accepted, ?_⟩
        · intro n
          simp only [edit, reduceCtorEq, false_iff, List.mem_cons, not_or]
          rintro ⟨hlink, hne, hnot⟩
          have hn : b.scene.transport.live = some n := (h.live n).2 ⟨hlink, hnot⟩
          exact hne (Option.some.inj (hn.symm.trans hlive))
        · rintro n hn
          rcases List.mem_cons.1 hn with rfl | hn
          · exact hcall
          · exact h.dropped n hn
      obtain ⟨news, hinbox, hnews⟩ := h.inbox
      have hsound : Sound c
          { b.edit fun t ↦ { t with live := none } with dropped := call :: b.dropped } [] [] :=
        ⟨hledger, .nothing, news, hinbox, fun i hi ↦
          (hnews i hi).mono fun n hn ↦ List.mem_cons_of_mem _ hn⟩
      have hdropped := hsound.receive (i := .closed call) (List.mem_cons_self)
      simpa [act, edit, Transport.drop, hlive] using hdropped

theorem Sound.act (h : Sound c b [] []) (a : Act) : Sound c (b.act a) [] [] := by
  cases a with
  | adjust script fallback failSends =>
      have hledger := h.toLedger.edit
        (f := fun t ↦ { t with script, fallback, failSends }) rfl rfl
      exact ⟨hledger, .nothing, h.inbox⟩
  | push text =>
      cases hlive : b.scene.transport.live with
      | none => simpa [Bench.act, edit, Transport.push, hlive] using h
      | some call =>
          have hpushed := h.receive (i := .frame call text) trivial
          simpa [Bench.act, edit, Transport.push, hlive] using hpushed
  | fail fault =>
      cases hlive : b.scene.transport.live with
      | none => simpa [Bench.act, edit, Transport.fail, hlive] using h
      | some call =>
          have hfailed := h.receive (i := .failed call fault) trivial
          simpa [Bench.act, edit, Transport.fail, hlive] using hfailed
  | drop => exact h.drop
  | wait millis =>
      have hledger := h.toLedger
      exact ⟨⟨hledger.config, hledger.client, hledger.closes, hledger.live, hledger.accepted,
        hledger.dropped⟩, .nothing, h.inbox⟩
  | command command => exact h.concat (by simp) rfl (by simp)
  | call => exact h.call
  | deliver => exact h.deliver
  | ping => exact h.concat (by simp) rfl (by simp)
  | retry => exact h.concat (by simp) rfl (by simp)
  | expire => exact h.concat (by simp) rfl (by simp)

/-! ## Settling

A scene that comes to rest by itself has gone through acts of its client. -/

theorem next?_of_inbox {inbox : List Input} (hlink : ∀ url, b.scene.client.link ≠ .waiting url)
    (hinbox : b.scene.transport.inbox = i :: inbox) :
    b.scene.next? = some (i, (b.edit fun t ↦ { t with inbox }).scene) := by
  cases hl : b.scene.client.link with
  | waiting url => exact absurd hl (hlink url)
  | _ => simp [Scene.next?, hl, hinbox, edit]

theorem settleWithin_succ (bound : Nat) {s : Scene} (h : b.scene.next? = some (i, s)) :
    b.scene.settleWithin (bound + 1) = (s.take i).settleWithin bound := by
  rw [Scene.settleWithin, h]

/-- What is in the inbox is delivered before anything can be at rest. -/
theorem settleWithin_of_inbox {bound : Nat} {inbox : List Input}
    (hlink : ∀ url, b.scene.client.link ≠ .waiting url)
    (hinbox : b.scene.transport.inbox = i :: inbox)
    (hrest : (b.scene.settleWithin bound).next? = none) :
    ∃ rest < bound, b.scene.settleWithin bound = b.deliver.scene.settleWithin rest := by
  have hnext := next?_of_inbox hlink hinbox
  cases bound with
  | zero => simp [Scene.settleWithin, hnext] at hrest
  | succ rest =>
      refine ⟨rest, Nat.lt_succ_self _, ?_⟩
      rw [settleWithin_succ _ hnext, deliver_eq hinbox]
      rfl

theorem Sound.settleWithin_drain (h : Sound c b pending fresh) {call deadline : Nat}
    (hlink : b.scene.client.link = .opening call deadline) {bound : Nat}
    (hrest : (b.scene.settleWithin bound).next? = none) :
    ∃ rest ≤ bound, b.scene.settleWithin bound =
      (Bench.deliver^[b.scene.transport.inbox.length] b).scene.settleWithin rest := by
  have hopening : ∀ url, b.scene.client.link ≠ .waiting url := by simp [hlink]
  obtain ⟨news, hinbox, hnews⟩ := h.inbox
  induction news generalizing b bound with
  | nil =>
      have hanswer : ∀ i, pending = [i] → ∃ rest ≤ bound, b.scene.settleWithin bound =
          (Bench.deliver^[b.scene.transport.inbox.length] b).scene.settleWithin rest := by
        rintro i rfl
        obtain ⟨rest, hlt, heq⟩ := settleWithin_of_inbox hopening hinbox hrest
        rw [hinbox]
        exact ⟨rest, hlt.le, heq⟩
      cases h.awaited with
      | nothing =>
          rw [hinbox]
          exact ⟨bound, le_rfl, rfl⟩
      | acceptance => exact hanswer _ rfl
      | refusal => exact hanswer _ rfl
  | cons i news ih =>
      obtain ⟨hi, hlater⟩ := List.forall_mem_cons.1 hnews
      obtain ⟨hnext, hsame, hinbox'⟩ :=
        h.deliver_news (by simp [hlink, Link.isOpen]) hi hlater hinbox
      obtain ⟨rest, hlt, heq⟩ := settleWithin_of_inbox hopening hinbox hrest
      obtain ⟨rest', hle, heq'⟩ := ih hnext (hsame.trans hlink) (heq ▸ hrest)
        (hsame.symm ▸ hopening) hinbox' (b.dropped_deliver.symm ▸ hlater)
      refine ⟨rest', hle.trans hlt.le, ?_⟩
      rw [heq, heq', hinbox, hinbox', List.cons_append, List.length_cons,
        Function.iterate_succ_apply]

/-- Apart from a call, what a client does next is one act. -/
theorem exists_act_of_next? {s : Scene} (hlink : ∀ url, b.scene.client.link ≠ .waiting url)
    (hnext : b.scene.next? = some (i, s)) : ∃ a, (b.act a).scene = s.take i := by
  cases Scene.next_of_next? hnext with
  | begin hwaiting => exact absurd hwaiting (hlink _)
  | delivery _ hinbox =>
      refine ⟨.deliver, ?_⟩
      rw [Bench.act, deliver_eq hinbox]
      rfl
  | ping => exact ⟨.ping, rfl⟩
  | retry => exact ⟨.retry, rfl⟩
  | expired => exact ⟨.expire, rfl⟩

theorem settleWithin_eq_play (h : Sound c b [] []) (bound : Nat)
    (hrest : (b.scene.settleWithin bound).next? = none) :
    ∃ acts, b.scene.settleWithin bound = (b.play acts).scene := by
  induction bound using Nat.strong_induction_on generalizing b with
  | _ bound ih =>
      cases bound with
      | zero => exact ⟨[], rfl⟩
      | succ bound =>
          cases hnext : b.scene.next? with
          | none => exact ⟨[], by rw [Scene.settleWithin, hnext]; rfl⟩
          | some x =>
              obtain ⟨i, s⟩ := x
              -- All that is left is settled within less once the act that comes next is done.
              suffices hact : ∃ a, ∃ rest ≤ bound, b.scene.settleWithin (bound + 1) =
                  (b.act a).scene.settleWithin rest by
                obtain ⟨a, rest, hle, heq⟩ := hact
                obtain ⟨acts, hacts⟩ := ih rest (by omega) (h.act a) (heq ▸ hrest)
                exact ⟨a :: acts, heq.trans hacts⟩
              have hsettle := settleWithin_succ bound hnext
              by_cases hwaiting : ∃ url, b.scene.client.link = .waiting url
              · obtain ⟨url, hlink⟩ := hwaiting
                obtain ⟨pending, fresh, n, deadline, hbegun, hopening⟩ := h.begin hlink
                have hbegin : b.scene.next? = some (.begin, b.scene) := by
                  simp [Scene.next?, hlink]
                cases hbegin.symm.trans hnext
                rw [hsettle] at hrest
                obtain ⟨rest, hle, heq⟩ := hbegun.settleWithin_drain hopening hrest
                exact ⟨.call, rest, hle, hsettle.trans (heq.trans (by
                  rw [Bench.act, call_of_waiting hlink]))⟩
              · obtain ⟨a, ha⟩ := exists_act_of_next? (not_exists.1 hwaiting) hnext
                exact ⟨a, bound, le_rfl, by rw [hsettle, ha]⟩

end Steps

theorem Sound.initial (c : Config) : Sound c (initial c) [] [] where
  config := rfl
  client := rfl
  closes := rfl
  awaited := .nothing
  inbox := ⟨[], rfl, by simp⟩
  live := by simp [Bench.initial, Scene.initial, Transport.initial, Client.initial]
  accepted := rfl
  dropped := by simp [Bench.initial]

theorem sound_play (c : Config) (acts : List Act) : Sound c ((initial c).play acts) [] [] := by
  induction acts using List.reverseRecOn with
  | nil => exact .initial c
  | append_singleton acts a ih =>
      rw [play, List.foldl_append]
      exact ih.act a

/-- What the transport of a bench knows of the connections. The client closed those that ended
otherwise than by their peer. Of those that were accepted only the last can be live: it is as long
as the client has it and its peer has not dropped it. To close another one changes nothing. -/
structure Accounted (c : Config) (b : Bench) : Prop where
  client : b.scene.client = after c b.inputs
  closes : b.scene.transport.closes = (discarded (parted c b.inputs)).length
  accepted : b.accepted = (joined c b.inputs).reverse
  isOpen : b.scene.transport.live.isSome = true ↔
    ∃ n, b.scene.client.link = .open n ∧ b.accepted.head? = some n ∧ n ∉ b.dropped
  unique : ∀ n ∈ b.accepted,
    n ∈ (parted c b.inputs).map Prod.fst ∨ n ∈ b.dropped ∨ b.scene.transport.live = some n
  close : ∀ n, b.scene.transport.live ≠ some n →
    (b.scene.transport.close n).live = b.scene.transport.live

theorem Sound.accounted {c : Config} {b : Bench} (h : Sound c b [] []) : Accounted c b := by
  have hjoined := Client.joined_eq c b.inputs
  have haccepted : b.accepted = (joined c b.inputs).reverse := by simpa using h.accepted
  have hlive : ∀ n, b.scene.transport.live = some n ↔
      b.scene.client.link = .open n ∧ n ∉ b.dropped := by simpa using h.live
  have hlast : ∀ n, b.scene.client.link = .open n → b.accepted.head? = some n := by
    intro n hlink
    rw [h.client] at hlink
    rw [haccepted, List.head?_reverse, hjoined, hlink]
    simp [Link.connection?]
  refine ⟨h.client, ?_, haccepted, ?_, ?_, ?_⟩
  · rw [h.closes, Client.closed_eq]
  · rw [Option.isSome_iff_exists]
    constructor
    · rintro ⟨n, hn⟩
      obtain ⟨hlink, hnot⟩ := (hlive n).1 hn
      exact ⟨n, hlink, hlast n hlink, hnot⟩
    · rintro ⟨n, hlink, -, hnot⟩
      exact ⟨n, (hlive n).2 ⟨hlink, hnot⟩⟩
  · intro n hn
    rw [haccepted, List.mem_reverse, hjoined, List.mem_append] at hn
    refine hn.imp_right fun hmem ↦ ?_
    have hlink : b.scene.client.link = .open n := by
      rw [h.client]
      exact Link.connection?_eq_some_iff.1 (by simpa using hmem)
    by_cases hdropped : n ∈ b.dropped
    · exact Or.inl hdropped
    · exact Or.inr ((hlive n).2 ⟨hlink, hdropped⟩)
  · intro n hn
    exact if_neg hn

/-- Every connection of a client is lost once, before the next call, and closed unless its peer has
ended it. On the scripted transport, whatever is done to it and to the client and in whatever order,
the closes are counted right and the connection that is open is the one that the client has; and a
scene that has come to rest is one of those that this is about. -/
theorem connections_accounted (c : Config) :
    (∀ inputs, Client.Tenure c inputs) ∧
      ∀ acts, Accounted c ((initial c).play acts) ∧
        (((initial c).play acts).scene.settle.next? = none →
          ∃ more, ((initial c).play acts).scene.settle =
            ((initial c).play (acts ++ more)).scene) := by
  refine ⟨Client.tenure_after c, fun acts ↦ ?_⟩
  have h := sound_play c acts
  refine ⟨h.accounted, fun hrest ↦ ?_⟩
  obtain ⟨more, hmore⟩ := settleWithin_eq_play h _ hrest
  refine ⟨more, hmore.trans ?_⟩
  rw [play, play, play, List.foldl_append]

/-- The peer drops the first connection, the second one fails, and the client has a third. -/
def replaced : List Act :=
  [.command (.connect none), .call, .drop, .deliver, .wait 1000, .retry, .call,
    .fail (.protocol ""), .deliver, .wait 1000, .retry, .call]

theorem replaced_accounted :
    ((initial .default).play replaced).scene.settle.next? = none ∧
      (∃ more, ((initial .default).play replaced).scene.settle =
        ((initial .default).play (replaced ++ more)).scene) ∧
      ((initial .default).play replaced).scene.transport.closes = 1 ∧
      ((initial .default).play replaced).scene.transport.live.isSome = true := by
  obtain ⟨haccounted, hsettles⟩ := (connections_accounted .default).2 replaced
  have hrest : ((initial .default).play replaced).scene.settle.next? = none := by rfl
  have hparted : parted .default ((initial .default).play replaced).inputs =
      [(1, .byPeer), (2, .failed)] := by decide
  have hlink : ((initial .default).play replaced).scene.client.link = .open 3 ∧
      ((initial .default).play replaced).accepted.head? = some 3 ∧
      3 ∉ ((initial .default).play replaced).dropped := by decide
  refine ⟨hrest, hsettles hrest, ?_, haccounted.isOpen.2 ⟨3, hlink⟩⟩
  rw [haccounted.closes, hparted]
  rfl

end Bench

end EventFeed.Scenario
