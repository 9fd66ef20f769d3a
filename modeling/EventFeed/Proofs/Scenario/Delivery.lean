import EventFeed.Proofs.Notification.Coverage
import EventFeed.Proofs.Scenario.Perform
import EventFeed.Scenario.Pipeline

/-!
# From the frames to the notifications

The client, the router and the center take their steps in any order: `play` is a run of a pipeline
in which the client takes any inputs, and the router and the center one message at a time. `Flowing`
is what holds after every such run about both channels, and `Logged` what holds about the log. The
main result is `delivered_play`: what the center takes, and what it makes of it.
-/

namespace EventFeed.Scenario

open Connection
open Notification (Alert Center Log Record Stamp alertOf? alertsOf isSorted recordOf? recordsOf)
open Routing (Routed Subscription)

/-- One step of somebody in a pipeline, or an operation on the log by others. Between the steps of
the client anything may happen to the transport and to the clock. -/
inductive Move where
  | stage (t : Transport) (now : Nat)
  | client (m : Moment) (i : Input)
  | pump
  | digest
  | operate (a : Notification.Action)

/-- What a step has done with a message. -/
inductive Note where
  | routed (e : Event)
  | ignored (e : Event)
  | ingested (e : Event)
  | lagged (count : Nat)

namespace Note

@[simp] def routed? : Note → Option Event
  | .routed e => some e
  | _ => none

/-- What the center has taken from its channel, wanted or not. -/
@[simp] def popped? : Note → Option Event
  | .ignored e => some e
  | .ingested e => some e
  | _ => none

@[simp] def ingested? : Note → Option Event
  | .ingested e => some e
  | _ => none

def isLoss : Note → Bool
  | .lagged _ => true
  | _ => false

end Note

/-- No receiver was overrun. -/
def Lossless (notes : List Note) : Prop := ∀ n ∈ notes, n.isLoss = false

instance (notes : List Note) : Decidable (Lossless notes) :=
  inferInstanceAs (Decidable (∀ n ∈ notes, n.isLoss = false))

namespace Pipeline

def pump (p : Pipeline) : Pipeline × List Note :=
  match p.scene.events.receive p.taken with
  | (.message e, taken) => (({ p with taken }.publish e).1, [.routed e])
  | (.lagged count, taken) => ({ p with taken }.report [lagged count], [.lagged count])
  | (.nothing, _) => (p, [])

def withFeed (p : Pipeline) (feed : Subscription) : Pipeline := { p with feed := some feed }

def digest (stamp : Nat → Stamp) (p : Pipeline) : Pipeline × List Note :=
  match p.feed with
  | none => (p, [])
  | some feed =>
    match p.router.channel.receive feed.position with
    | (.message r, position) =>
      let p := p.withFeed { feed with position }
      if feed.wants r then ((p.ingest stamp r.event).1, [.ingested r.event])
      else (p, [.ignored r.event])
    | (.lagged count, _) =>
      let (feed, reports) := feed.catchUp p.router.channel
      ((p.withFeed feed).report reports, [.lagged count])
    | (.nothing, _) => (p, [])

def operate (p : Pipeline) (a : Notification.Action) : Pipeline :=
  let (center, alerts) := p.center.act a
  alerts.foldl raise { p with center }

def move (stamp : Nat → Stamp) (p : Pipeline) : Move → Pipeline × List Note
  | .stage t now => ({ p with scene := { p.scene with transport := t, now } }, [])
  | .client m i => ({ p with scene := p.scene.takeAt m i }, [])
  | .pump => p.pump
  | .digest => p.digest stamp
  | .operate a => (p.operate a, [])

def play (stamp : Nat → Stamp) (p : Pipeline) : List Move → Pipeline × List Note
  | [] => (p, [])
  | x :: moves =>
    let (p, first) := p.move stamp x
    let (p, rest) := p.play stamp moves
    (p, first ++ rest)

/-- Nothing is left to take for the router or the center. -/
def Drained (p : Pipeline) : Prop :=
  p.taken = p.scene.events.sent ∧ p.feed.map (·.position) = some p.router.channel.sent

instance (p : Pipeline) : Decidable p.Drained := inferInstanceAs (Decidable (_ ∧ _))

/-- Which alerts have come to where they go. -/
structure Raised (p : Pipeline) (alerts : List Alert) : Prop where
  heard : p.sink = .listener true → p.alerts = alerts
  unheard : p.sink = .listener false → p.alerts = []
  reported : p.sink = .log →
    p.scene.log.filter (·.target = Alert.target) = alerts.map Alert.entry

end Pipeline

def inputsOf (moves : List Move) : List (Moment × Input) :=
  moves.filterMap fun
    | .client m i => some (m, i)
    | _ => none

def routed (notes : List Note) : List Event := notes.filterMap Note.routed?

def popped (notes : List Note) : List Event := notes.filterMap Note.popped?

def ingested (notes : List Note) : List Event := notes.filterMap Note.ingested?

/-- The events among the frames that a client receives. -/
def decoded (c : Config) (inputs : List (Moment × Input)) : List Event :=
  (Client.received c (.initial c) inputs).filterMap eventOf?

section Notes

variable (notes : List Note) (n : Note)

@[simp] theorem routed_concat : routed (notes ++ [n]) = routed notes ++ n.routed?.toList := by
  rw [routed, List.filterMap_append]
  cases n <;> rfl

@[simp] theorem popped_concat : popped (notes ++ [n]) = popped notes ++ n.popped?.toList := by
  rw [popped, List.filterMap_append]
  cases n <;> rfl

@[simp] theorem ingested_concat :
    ingested (notes ++ [n]) = ingested notes ++ n.ingested?.toList := by
  rw [ingested, List.filterMap_append]
  cases n <;> rfl

theorem Lossless.of_append {first rest : List Note} (h : Lossless (first ++ rest)) :
    Lossless first :=
  fun n hn ↦ h n (List.mem_append_left _ hn)

theorem not_lossless_concat (count : Nat) : ¬ Lossless (notes ++ [.lagged count]) := by
  intro h
  cases h (.lagged count) (by simp)

theorem inputsOf_append (first rest : List Move) :
    inputsOf (first ++ rest) = inputsOf first ++ inputsOf rest :=
  List.filterMap_append

end Notes

namespace Pipeline

variable {stamp : Nat → Stamp}

section WithFeed

variable (p : Pipeline) (feed : Subscription)

@[simp] theorem router_withFeed : (p.withFeed feed).router = p.router := rfl

@[simp] theorem taken_withFeed : (p.withFeed feed).taken = p.taken := rfl

end WithFeed

theorem play_cons (p : Pipeline) (x : Move) (moves : List Move) :
    p.play stamp (x :: moves) =
      (((p.move stamp x).1.play stamp moves).1,
        (p.move stamp x).2 ++ ((p.move stamp x).1.play stamp moves).2) := rfl

theorem play_append (p : Pipeline) (first rest : List Move) :
    p.play stamp (first ++ rest) =
      (((p.play stamp first).1.play stamp rest).1,
        (p.play stamp first).2 ++ ((p.play stamp first).1.play stamp rest).2) := by
  induction first generalizing p with
  | nil => rfl
  | cons x first ih =>
      rw [List.cons_append, play_cons, play_cons, ih]
      simp [List.append_assoc]

theorem play_concat (p : Pipeline) (moves : List Move) (x : Move) :
    p.play stamp (moves ++ [x]) =
      (((p.play stamp moves).1.move stamp x).1,
        (p.play stamp moves).2 ++ ((p.play stamp moves).1.move stamp x).2) := by
  rw [play_append, play_cons, play]
  simp

theorem digest_of_sorted {p : Pipeline} {position : Nat} {e : Event}
    (hfeed : p.feed = some ⟨Center.interest, position⟩)
    (hreceive : p.router.channel.receive position = (.message (.ofEvent e), position + 1))
    (he : isSorted e = true) :
    p.digest stamp =
      (((p.withFeed ⟨Center.interest, position + 1⟩).ingest stamp e).1, [.ingested e]) := by
  have hwants : (⟨Center.interest, position⟩ : Subscription).wants (.ofEvent e) = true :=
    (Center.keeps_interest e).trans he
  simp only [digest, hfeed, hreceive, hwants, if_true]
  rfl

theorem digest_of_unsorted {p : Pipeline} {position : Nat} {e : Event}
    (hfeed : p.feed = some ⟨Center.interest, position⟩)
    (hreceive : p.router.channel.receive position = (.message (.ofEvent e), position + 1))
    (he : isSorted e = false) :
    p.digest stamp = (p.withFeed ⟨Center.interest, position + 1⟩, [.ignored e]) := by
  have hwants : (⟨Center.interest, position⟩ : Subscription).wants (.ofEvent e) = false :=
    (Center.keeps_interest e).trans he
  simp only [digest, hfeed, hreceive, hwants, Bool.false_eq_true, if_false]
  rfl

/-! An alert changes only the list of alerts or the log of the scene, whoever raises it. -/

theorem raise_eq (p : Pipeline) (a : Alert) :
    ∃ alerts log, p.raise a = { p with alerts, scene := { p.scene with log } } := by
  rw [raise]
  split
  · exact ⟨_, _, rfl⟩
  · exact ⟨_, _, rfl⟩
  · exact ⟨_, _, rfl⟩

theorem foldl_raise_eq (alerts : List Alert) (p : Pipeline) :
    ∃ all log, alerts.foldl raise p = { p with alerts := all, scene := { p.scene with log } } := by
  induction alerts generalizing p with
  | nil => exact ⟨_, _, rfl⟩
  | cons a alerts ih =>
      obtain ⟨some, log, hraise⟩ := p.raise_eq a
      obtain ⟨all, log', hrest⟩ := ih (p.raise a)
      refine ⟨all, log', ?_⟩
      rw [List.foldl_cons, hrest, hraise]

/-- The pipeline when the center has logged an event and no alert is raised yet. -/
def logged (stamp : Nat → Stamp) (p : Pipeline) (e : Event) : Pipeline :=
  { p with center := (p.center.ingest (stamp p.stamps) e).1, stamps := p.stamps + 1 }

theorem ingest_of_alert {p : Pipeline} {e : Event} {a : Alert}
    (h : alertOf? (stamp p.stamps) e = some a) :
    (p.ingest stamp e).1 = (p.logged stamp e).raise a := by
  simp only [ingest, Center.ingest_snd, Notification.bind_alert?, h]
  rfl

theorem ingest_of_no_alert {p : Pipeline} {e : Event} (h : alertOf? (stamp p.stamps) e = none) :
    (p.ingest stamp e).1 = p.logged stamp e := by
  simp only [ingest, Center.ingest_snd, Notification.bind_alert?, h]
  rfl

theorem ingest_eq (p : Pipeline) (stamp : Nat → Stamp) (e : Event) :
    ∃ center alerts log, (p.ingest stamp e).1 =
      { p with center, alerts, stamps := p.stamps + 1, scene := { p.scene with log } } := by
  cases h : alertOf? (stamp p.stamps) e with
  | none => exact ⟨_, _, _, ingest_of_no_alert h⟩
  | some a =>
      obtain ⟨alerts, log, hraise⟩ := (p.logged stamp e).raise_eq a
      exact ⟨_, alerts, log, (ingest_of_alert h).trans hraise⟩

theorem operate_eq (p : Pipeline) (a : Notification.Action) :
    ∃ center alerts log,
      p.operate a = { p with center, alerts, scene := { p.scene with log } } := by
  obtain ⟨alerts, log, hraised⟩ :=
    foldl_raise_eq (p.center.act a).2 { p with center := (p.center.act a).1 }
  exact ⟨_, alerts, log, hraised⟩

end Pipeline

/-- What the channels of a pipeline hold after a run, and what has come through them. -/
structure Flowing (c : Config) (moves : List Move) (p : Pipeline) (notes : List Note) : Prop where
  config : p.scene.config = c
  current : p.scene.client = Client.after c (inputsOf moves)
  events : p.scene.events.Holds (decoded c (inputsOf moves))
  taken : Broadcast.Follows (decoded c (inputsOf moves)) p.taken (routed notes) (Lossless notes)
  channel : p.router.channel.Holds ((routed notes).map Routed.ofEvent)
  feed : ∃ position, p.feed = some ⟨Center.interest, position⟩ ∧
    Broadcast.Follows (routed notes) position (popped notes) (Lossless notes)
  wanted : ingested notes = (popped notes).filter isSorted

namespace Flowing

variable {c : Config} {stamp : Nat → Stamp} {moves : List Move} {p : Pipeline} {notes : List Note}

theorem settled (h : Flowing c moves p notes) : Settled p.scene.config p.scene.client := by
  rw [h.config, h.current]
  exact Client.settled_after c _

theorem initial (c : Config) (capacity : Nat) (s : Settings.Notifications) (sink : Sink) :
    Flowing c [] (.initial c capacity s sink) [] where
  config := rfl
  current := rfl
  events := .empty _
  taken := .start
  channel := .empty _
  feed := ⟨0, rfl, .start⟩
  wanted := rfl

theorem decoded_concat (c : Config) (inputs : List (Moment × Input)) (m : Moment) (i : Input) :
    decoded c (inputs ++ [(m, i)]) =
      decoded c inputs ++ published ((Client.after c inputs).step c m i).2 := by
  rw [decoded, Client.received, Client.collect_concat, List.filterMap_append,
    Client.published_step (Client.settled_after c inputs)]
  rfl

/-- A step of somebody else's leaves the client alone. -/
theorem inputsOf_concat {x : Move} (hx : ∀ m i, x ≠ .client m i) (moves : List Move) :
    inputsOf (moves ++ [x]) = inputsOf moves := by
  rw [inputsOf_append]
  cases x with
  | client m i => exact absurd rfl (hx m i)
  | _ => exact List.append_nil _

theorem other (h : Flowing c moves p notes) {x : Move} (hx : ∀ m i, x ≠ .client m i) :
    Flowing c (moves ++ [x]) p notes := by
  have hinputs := inputsOf_concat hx moves
  exact ⟨h.config, hinputs ▸ h.current, hinputs ▸ h.events, hinputs ▸ h.taken, h.channel, h.feed,
    h.wanted⟩

theorem stage (h : Flowing c moves p notes) (t : Transport) (now : Nat) :
    Flowing c moves { p with scene := { p.scene with transport := t, now } } notes :=
  ⟨h.config, h.current, h.events, h.taken, h.channel, h.feed, h.wanted⟩

theorem client (h : Flowing c moves p notes) (m : Moment) (i : Input) :
    Flowing c (moves ++ [.client m i]) { p with scene := p.scene.takeAt m i } notes := by
  have hinputs : inputsOf (moves ++ [.client m i]) = inputsOf moves ++ [(m, i)] :=
    inputsOf_append _ _
  have hdecoded := decoded_concat c (inputsOf moves) m i
  rw [← hinputs] at hdecoded
  refine ⟨?_, ?_, ?_, ?_, h.channel, h.feed, h.wanted⟩
  · rw [Scene.config_takeAt, h.config]
  · rw [Scene.client_takeAt, h.config, h.current, hinputs, Client.after_concat]
  · have hevents := Scene.events_takeAt p.scene m i h.events
    rwa [h.config, h.current, ← hdecoded] at hevents
  · rw [hdecoded]
    exact h.taken.append _

theorem pump (h : Flowing c moves p notes) : Flowing c moves p.pump.1 (notes ++ p.pump.2) := by
  obtain ⟨position, hfeed, hfollows⟩ := h.feed
  rcases h.events.receive_cases h.taken.within with ⟨hlost, heq⟩ | ⟨e, -, he, heq⟩ | ⟨-, heq⟩
  · have hover := not_lossless_concat notes (p.scene.events.oldest - p.taken)
    have htaken := (h.taken.skip hlost.le h.events.oldest_le).mono hover
    simp only [Pipeline.pump, heq]
    refine ⟨h.config, h.current, h.events, ?_, ?_, ⟨position, hfeed, ?_⟩, ?_⟩
    · simpa [Pipeline.report] using htaken
    · simpa [Pipeline.report] using h.channel
    · simpa using hfollows.mono Lossless.of_append
    · simpa using h.wanted
  · have hbefore : Lossless (notes ++ [.routed e]) → Lossless notes := .of_append
    have htaken := (h.taken.message he).mono hbefore
    have hchannel := h.channel.send (.ofEvent e)
    have hfollows := (hfollows.append [e]).mono hbefore
    simp only [Pipeline.pump, heq]
    refine ⟨h.config, h.current, h.events, ?_, ?_, ⟨position, hfeed, ?_⟩, ?_⟩
    · simpa [Pipeline.publish] using htaken
    · simpa [Pipeline.publish, Routing.Router.publish] using hchannel
    · simpa using hfollows
    · simpa using h.wanted
  · simp only [Pipeline.pump, heq, List.append_nil]
    exact h

/-- The center has taken the event that was next, whether or not it wants it. -/
theorem pop (h : Flowing c moves p notes) {position : Nat}
    (hfollows : Broadcast.Follows (routed notes) position (popped notes) (Lossless notes))
    {e : Event} (he : (routed notes)[position]? = some e) {n : Note} (hrouted : n.routed? = none)
    (hpopped : n.popped? = some e) (hingested : n.ingested?.toList = [e].filter isSorted)
    (center : Center) (alerts : List Alert) (stamps : Nat) (log : List Telemetry.Entry) :
    Flowing c moves
      { p.withFeed ⟨Center.interest, position + 1⟩ with
        center, alerts, stamps, scene := { p.scene with log } }
      (notes ++ [n]) := by
  have hbefore : Lossless (notes ++ [n]) → Lossless notes := .of_append
  have hroutes : routed (notes ++ [n]) = routed notes := by
    rw [routed_concat, hrouted, Option.toList_none, List.append_nil]
  have hpops : popped (notes ++ [n]) = popped notes ++ [e] := by
    rw [popped_concat, hpopped, Option.toList_some]
  refine ⟨h.config, h.current, h.events, ?_, ?_, ⟨_, rfl, ?_⟩, ?_⟩
  · rw [hroutes]
    exact h.taken.mono hbefore
  · rw [hroutes]
    exact h.channel
  · rw [hroutes, hpops]
    exact (hfollows.message he).mono hbefore
  · rw [ingested_concat, hingested, h.wanted, hpops, List.filter_append]

theorem digest (h : Flowing c moves p notes) :
    Flowing c moves (p.digest stamp).1 (notes ++ (p.digest stamp).2) := by
  obtain ⟨position, hfeed, hfollows⟩ := h.feed
  have hwithin : position ≤ ((routed notes).map Routed.ofEvent).length := by
    simpa using hfollows.within
  rcases h.channel.receive_cases hwithin with ⟨hlost, heq⟩ | ⟨r, -, hr, heq⟩ | ⟨-, heq⟩
  · have hover := not_lossless_concat notes (p.router.channel.oldest - position)
    have holdest : p.router.channel.oldest ≤ (routed notes).length := by
      simpa using h.channel.oldest_le
    have hskipped := (hfollows.skip hlost.le holdest).mono hover
    simp only [Pipeline.digest, hfeed, heq, Subscription.catchUp, if_pos hlost]
    refine ⟨h.config, h.current, h.events, ?_, ?_, ⟨_, rfl, ?_⟩, ?_⟩
    · simpa [Pipeline.report] using h.taken.mono Lossless.of_append
    · simpa [Pipeline.report] using h.channel
    · simpa using hskipped
    · simpa using h.wanted
  · obtain ⟨e, he, rfl⟩ : ∃ e, (routed notes)[position]? = some e ∧ Routed.ofEvent e = r := by
      simpa using hr
    cases hsorted : isSorted e with
    | true =>
        obtain ⟨center, alerts, log, hingest⟩ :=
          (p.withFeed ⟨Center.interest, position + 1⟩).ingest_eq stamp e
        rw [Pipeline.digest_of_sorted hfeed heq hsorted, hingest]
        exact h.pop hfollows he rfl rfl (by simp [hsorted]) center alerts _ log
    | false =>
        rw [Pipeline.digest_of_unsorted hfeed heq hsorted]
        exact h.pop hfollows he rfl rfl (by simp [hsorted]) p.center p.alerts p.stamps p.scene.log
  · simp only [Pipeline.digest, hfeed, heq, List.append_nil]
    exact h

theorem operate (h : Flowing c moves p notes) (a : Notification.Action) :
    Flowing c moves (p.operate a) notes := by
  obtain ⟨center, alerts, log, heq⟩ := p.operate_eq a
  rw [heq]
  exact ⟨h.config, h.current, h.events, h.taken, h.channel, h.feed, h.wanted⟩

theorem concat (h : Flowing c moves p notes) (x : Move) :
    Flowing c (moves ++ [x]) (p.move stamp x).1 (notes ++ (p.move stamp x).2) := by
  cases x with
  | stage t now =>
      rw [Pipeline.move, List.append_nil]
      exact (h.stage t now).other (by simp)
  | client m i =>
      rw [Pipeline.move, List.append_nil]
      exact h.client m i
  | pump => exact h.pump.other (by simp)
  | digest => exact h.digest.other (by simp)
  | operate a =>
      rw [Pipeline.move, List.append_nil]
      exact (h.operate a).other (by simp)

end Flowing

theorem Flowing.play {c : Config} {moves : List Move} {p : Pipeline} {notes : List Note}
    (h : Flowing c moves p notes) (stamp : Nat → Stamp) (more : List Move) :
    Flowing c (moves ++ more) (p.play stamp more).1 (notes ++ (p.play stamp more).2) := by
  induction more using List.reverseRecOn with
  | nil =>
      rw [Pipeline.play, List.append_nil, List.append_nil]
      exact h
  | append_singleton more x ih =>
      rw [Pipeline.play_concat, ← List.append_assoc, ← List.append_assoc]
      exact ih.concat x

theorem flowing_play (c : Config) (capacity : Nat) (s : Settings.Notifications) (sink : Sink)
    (stamp : Nat → Stamp) (moves : List Move) :
    Flowing c moves ((Pipeline.initial c capacity s sink).play stamp moves).1
      ((Pipeline.initial c capacity s sink).play stamp moves).2 :=
  (Flowing.initial c capacity s sink).play stamp moves

namespace Pipeline

variable {stamp : Nat → Stamp} {p p' : Pipeline} {alerts : List Alert}

theorem Raised.of_eq (h : p.Raised alerts) (hsink : p'.sink = p.sink)
    (halerts : p'.alerts = p.alerts)
    (hlog : p'.scene.log.filter (·.target = Alert.target) =
      p.scene.log.filter (·.target = Alert.target)) : p'.Raised alerts := by
  refine ⟨?_, ?_, ?_⟩
  · rw [hsink, halerts]
    exact h.heard
  · rw [hsink, halerts]
    exact h.unheard
  · rw [hsink, hlog]
    exact h.reported

/-- Reports of other parts of the program are no alerts. -/
theorem Raised.report (h : p.Raised alerts) {entries : List Telemetry.Entry}
    (hentries : ∀ entry ∈ entries, entry.target ≠ Alert.target) :
    (p.report entries).Raised alerts := by
  refine h.of_eq rfl rfl ?_
  have hnone : entries.filter (·.target = Alert.target) = [] := by simpa using hentries
  simp only [Pipeline.report, List.filter_append, hnone, List.append_nil]

theorem Raised.raise (h : p.Raised alerts) (a : Alert) : (p.raise a).Raised (alerts ++ [a]) := by
  have htarget : a.entry.target = Alert.target := by
    simp only [Alert.entry]
    split <;> rfl
  cases hsink : p.sink with
  | listener present =>
      cases present with
      | true =>
          have halerts := h.heard hsink
          constructor <;> simp [Pipeline.raise, hsink, halerts]
      | false =>
          have halerts := h.unheard hsink
          constructor <;> simp [Pipeline.raise, hsink, halerts]
  | log =>
      have hlog := h.reported hsink
      constructor <;> simp [Pipeline.raise, Pipeline.report, hsink, hlog, htarget]

end Pipeline

structure Logged (stamp : Nat → Stamp) (capacity : Nat) (p : Pipeline) (notes : List Note) :
    Prop where
  stamps : p.stamps = (ingested notes).length
  capacity : p.center.log.capacity = max capacity 1
  records : p.center.log.records =
    (recordsOf stamp (ingested notes)).reverse.take p.center.log.capacity
  raised : p.Raised (alertsOf stamp (ingested notes))

namespace Logged

variable {stamp : Nat → Stamp} {capacity : Nat} {p : Pipeline} {notes : List Note}

theorem initial (stamp : Nat → Stamp) (c : Config) (capacity : Nat) (s : Settings.Notifications)
    (sink : Sink) : Logged stamp s.capacity.toNat (.initial c capacity s sink) [] where
  stamps := rfl
  capacity := rfl
  records := List.take_nil.symm
  raised := ⟨fun _ ↦ rfl, fun _ ↦ rfl, fun _ ↦ rfl⟩

/-- What the center does not take does not count. -/
theorem concat_other (h : Logged stamp capacity p notes) {n : Note} (hn : n.ingested? = none)
    {p' : Pipeline} (hstamps : p'.stamps = p.stamps) (hcenter : p'.center = p.center)
    (hraised : p'.Raised (alertsOf stamp (ingested notes))) :
    Logged stamp capacity p' (notes ++ [n]) := by
  have hsame : ingested (notes ++ [n]) = ingested notes := by
    rw [ingested_concat, hn]
    exact List.append_nil _
  refine ⟨?_, ?_, ?_, ?_⟩
  · rw [hstamps, hsame, h.stamps]
  · rw [hcenter, h.capacity]
  · rw [hcenter, hsame, h.records]
  · rwa [hsame]

theorem client (h : Logged stamp capacity p notes)
    (hsettled : Settled p.scene.config p.scene.client) (m : Moment) (i : Input) :
    Logged stamp capacity { p with scene := p.scene.takeAt m i } notes := by
  have hsigned := Client.signed_reaction (Client.reaction_step hsettled m i)
  have hlog : (p.scene.takeAt m i).log.filter (·.target = Alert.target) =
      p.scene.log.filter (·.target = Alert.target) := by
    refine Scene.filter_log_foldl _ _ fun entry hentry ↦ ?_
    rw [hsigned entry hentry]
    decide
  exact ⟨h.stamps, h.capacity, h.records, h.raised.of_eq rfl rfl hlog⟩

theorem pump (h : Logged stamp capacity p notes) :
    Logged stamp capacity p.pump.1 (notes ++ p.pump.2) := by
  rw [Pipeline.pump]
  split
  · exact h.concat_other rfl rfl rfl (h.raised.of_eq rfl rfl rfl)
  · rename_i count taken _
    have htarget : "casefeed_router::router" ≠ Alert.target := by decide
    have hmoved : { p with taken }.Raised (alertsOf stamp (ingested notes)) :=
      h.raised.of_eq rfl rfl rfl
    refine h.concat_other rfl rfl rfl (hmoved.report fun entry hentry ↦ ?_)
    rw [List.mem_singleton.1 hentry]
    exact htarget
  · rw [List.append_nil]
    exact h

theorem records_logged (h : Logged stamp capacity p notes) (e : Event) :
    (p.logged stamp e).center.log.capacity = p.center.log.capacity ∧
      (p.logged stamp e).center.log.records =
        (recordsOf stamp (ingested notes ++ [e])).reverse.take p.center.log.capacity := by
  rw [Notification.recordsOf_concat, ← h.stamps, Pipeline.logged]
  cases hrecord : recordOf? (stamp p.stamps) e with
  | none =>
      rw [Center.log_ingest_of_none _ _ _ hrecord]
      exact ⟨rfl, by simpa using h.records⟩
  | some r =>
      rw [Center.log_ingest_of_some _ _ _ hrecord, Log.capacity_push]
      exact ⟨rfl, Log.records_push_of_take _ _ h.records⟩

theorem concat_ingested (h : Logged stamp capacity p notes) {e : Event} {p' : Pipeline}
    (hstamps : p'.stamps = p.stamps + 1) (hcenter : p'.center = (p.logged stamp e).center)
    (hraised : p'.Raised (alertsOf stamp (ingested notes ++ [e]))) :
    Logged stamp capacity p' (notes ++ [.ingested e]) := by
  have hevents : ingested (notes ++ [.ingested e]) = ingested notes ++ [e] := by simp
  obtain ⟨hcapacity, hrecords⟩ := h.records_logged e
  refine ⟨?_, ?_, ?_, ?_⟩
  · rw [hstamps, h.stamps, hevents, List.length_append, List.length_singleton]
  · rw [hcenter, hcapacity, h.capacity]
  · rw [hcenter, hcapacity, hevents, hrecords]
  · rwa [hevents]

theorem ingest (h : Logged stamp capacity p notes) (e : Event) :
    Logged stamp capacity (p.ingest stamp e).1 (notes ++ [.ingested e]) := by
  have hraised : (p.logged stamp e).Raised (alertsOf stamp (ingested notes)) :=
    h.raised.of_eq rfl rfl rfl
  have halerts := Notification.alertsOf_concat stamp (ingested notes) e
  rw [← h.stamps] at halerts
  cases halert : alertOf? (stamp p.stamps) e with
  | none =>
      rw [halert, Option.toList_none, List.append_nil] at halerts
      rw [Pipeline.ingest_of_no_alert halert]
      exact h.concat_ingested rfl rfl (halerts ▸ hraised)
  | some a =>
      rw [halert, Option.toList_some] at halerts
      have hnext := hraised.raise a
      obtain ⟨alerts, log, heq⟩ := (p.logged stamp e).raise_eq a
      rw [heq, ← halerts] at hnext
      rw [Pipeline.ingest_of_alert halert, heq]
      exact h.concat_ingested rfl rfl hnext

theorem digest (h : Logged stamp capacity p notes) :
    Logged stamp capacity (p.digest stamp).1 (notes ++ (p.digest stamp).2) := by
  rw [Pipeline.digest]
  split
  · rw [List.append_nil]
    exact h
  · rename_i feed _
    split
    · rename_i r position _
      have hmoved : Logged stamp capacity (p.withFeed { feed with position }) notes :=
        ⟨h.stamps, h.capacity, h.records, h.raised.of_eq rfl rfl rfl⟩
      by_cases hwants : feed.wants r = true
      · rw [if_pos hwants]
        exact hmoved.ingest r.event
      · rw [if_neg hwants]
        exact hmoved.concat_other rfl rfl rfl hmoved.raised
    · have htarget : "casefeed_router::subscription" ≠ Alert.target := by decide
      have hreports : ∀ entry ∈ (feed.catchUp p.router.channel).2, entry.target ≠ Alert.target := by
        intro entry hentry
        rw [Subscription.catchUp] at hentry
        split at hentry
        · rw [List.mem_singleton.1 hentry]
          exact htarget
        · cases hentry
      have hmoved : (p.withFeed (feed.catchUp p.router.channel).1).Raised
          (alertsOf stamp (ingested notes)) := h.raised.of_eq rfl rfl rfl
      exact h.concat_other rfl rfl rfl (hmoved.report hreports)
    · rw [List.append_nil]
      exact h

theorem concat (h : Logged stamp capacity p notes)
    (hsettled : Settled p.scene.config p.scene.client) {x : Move} (hx : ∀ a, x ≠ .operate a) :
    Logged stamp capacity (p.move stamp x).1 (notes ++ (p.move stamp x).2) := by
  cases x with
  | stage t now =>
      rw [Pipeline.move, List.append_nil]
      exact ⟨h.stamps, h.capacity, h.records, h.raised.of_eq rfl rfl rfl⟩
  | client m i =>
      rw [Pipeline.move, List.append_nil]
      exact h.client hsettled m i
  | pump => exact h.pump
  | digest => exact h.digest
  | operate a => exact absurd rfl (hx a)

end Logged

theorem logged_play (c : Config) (capacity : Nat) (s : Settings.Notifications) (sink : Sink)
    (stamp : Nat → Stamp) {moves : List Move} (hmoves : ∀ a, .operate a ∉ moves) :
    Logged stamp s.capacity.toNat ((Pipeline.initial c capacity s sink).play stamp moves).1
      ((Pipeline.initial c capacity s sink).play stamp moves).2 := by
  induction moves using List.reverseRecOn with
  | nil => exact .initial stamp c capacity s sink
  | append_singleton moves x ih =>
      have hsettled := (flowing_play c capacity s sink stamp moves).settled
      rw [Pipeline.play_concat]
      refine (ih fun a ha ↦ hmoves a (by simp [ha])).concat hsettled ?_
      rintro a rfl
      exact hmoves a (by simp)

/-- What a run of a pipeline comes to. The center takes events that belong to a category, of those
that the client has received, in order and none twice. As long as no receiver is overrun it takes
the first of them, and all of them when both channels are drained. Each of them has a record; the
log has the latest records, and those of the alerting types have raised their alerts, unless others
have meddled with the log. -/
structure Delivered (c : Config) (stamp : Nat → Stamp) (capacity : Nat) (moves : List Move)
    (p : Pipeline) (notes : List Note) : Prop where
  sublist : (ingested notes).Sublist ((decoded c (inputsOf moves)).filter isSorted)
  initial : Lossless notes → ingested notes <+: (decoded c (inputsOf moves)).filter isSorted
  complete : Lossless notes → p.Drained →
    ingested notes = (decoded c (inputsOf moves)).filter isSorted
  recorded : (recordsOf stamp (ingested notes)).length = (ingested notes).length
  log : (∀ a, .operate a ∉ moves) →
    p.center.log.records = (recordsOf stamp (ingested notes)).reverse.take (max capacity 1)
  alerts : (∀ a, .operate a ∉ moves) → p.Raised (alertsOf stamp (ingested notes))

theorem Flowing.ingested_eq {c : Config} {moves : List Move} {p : Pipeline} {notes : List Note}
    (h : Flowing c moves p notes) (hlossless : Lossless notes) :
    ∃ position, p.feed = some ⟨Center.interest, position⟩ ∧
      ingested notes =
        (((decoded c (inputsOf moves)).take p.taken).take position).filter isSorted := by
  obtain ⟨position, hfeed, hfollows⟩ := h.feed
  refine ⟨position, hfeed, ?_⟩
  rw [h.wanted, hfollows.complete hlossless, h.taken.complete hlossless]

theorem delivered_play (c : Config) (capacity : Nat) (s : Settings.Notifications) (sink : Sink)
    (stamp : Nat → Stamp) (moves : List Move) :
    Delivered c stamp s.capacity.toNat moves
      ((Pipeline.initial c capacity s sink).play stamp moves).1
      ((Pipeline.initial c capacity s sink).play stamp moves).2 := by
  have h := flowing_play c capacity s sink stamp moves
  generalize hout : (Pipeline.initial c capacity s sink).play stamp moves = out at h ⊢
  obtain ⟨p, notes⟩ := out
  obtain ⟨position, hfeed, hfollows⟩ := h.feed
  have hwanted := h.wanted
  refine ⟨?_, ?_, ?_, ?_, ?_, ?_⟩
  · rw [hwanted]
    have hrouted := h.taken.sublist.trans (List.take_sublist _ _)
    have hpopped := hfollows.sublist.trans (List.take_sublist _ _)
    exact (hpopped.trans hrouted).filter _
  · intro hlossless
    obtain ⟨position, -, heq⟩ := h.ingested_eq hlossless
    rw [heq]
    exact ((List.take_prefix _ _).trans (List.take_prefix _ _)).filter _
  · rintro hlossless ⟨htaken, hposition⟩
    have hrouted := h.taken.complete hlossless
    have hpopped := hfollows.complete hlossless
    have hend : position = (routed notes).length := by
      have hsent := h.channel.sent
      rw [List.length_map] at hsent
      rw [hfeed] at hposition
      exact (Option.some.inj hposition).trans hsent
    rw [htaken, h.events.sent, List.take_length] at hrouted
    rw [hwanted, hpopped, hend, List.take_length, hrouted]
  · refine Notification.length_recordsOf (fun e he ↦ ?_) stamp
    rw [hwanted] at he
    exact (List.mem_filter.1 he).2
  · intro hmoves
    have hlogged := logged_play c capacity s sink stamp hmoves
    rw [hout] at hlogged
    rw [← hlogged.capacity]
    exact hlogged.records
  · intro hmoves
    have hlogged := logged_play c capacity s sink stamp hmoves
    rw [hout] at hlogged
    exact hlogged.raised

end EventFeed.Scenario
