import EventFeed.Proofs.Scenario.Delivery

/-!
# Batches of single steps

A pipeline that settles lets the client, the router and the center each take all they can. That is
a run of single steps too, after which nothing is left to take: `reaches_settle` and `reaches_sleep`
say so, and with them what holds of all runs holds whenever a pipeline has settled. The main result
is `received_events_delivered`.
-/

namespace EventFeed.Scenario

open Connection
open Notification (Center Stamp alertsOf isSorted recordsOf)
open Routing (Routed Subscription)

namespace Scene

/-- What a client does next takes at most a message out of its inbox. -/
theorem next?_eq_some {s s' : Scene} {i : Input} (h : s.next? = some (i, s')) :
    ∃ t, s' = { s with transport := t } := by
  cases next_of_next? h <;> exact ⟨_, rfl⟩

end Scene

namespace Pipeline

/-- Some steps, none of them an operation by others, lead from one pipeline to the other. -/
def Reaches (stamp : Nat → Stamp) (p p' : Pipeline) : Prop :=
  ∃ moves, (∀ a, .operate a ∉ moves) ∧ (p.play stamp moves).1 = p'

variable {stamp : Nat → Stamp} {p p' p'' : Pipeline}

theorem Reaches.refl (p : Pipeline) : Reaches stamp p p := ⟨[], by simp, rfl⟩

theorem Reaches.trans (h : Reaches stamp p p') (h' : Reaches stamp p' p'') :
    Reaches stamp p p'' := by
  obtain ⟨first, hfirst, rfl⟩ := h
  obtain ⟨rest, hrest, rfl⟩ := h'
  refine ⟨first ++ rest, fun a ha ↦ ?_, by rw [play_append]⟩
  exact (List.mem_append.1 ha).elim (hfirst a) (hrest a)

theorem Reaches.single {x : Move} (hx : ∀ a, x ≠ .operate a) :
    Reaches stamp p (p.move stamp x).1 :=
  ⟨[x], fun a ha ↦ hx a (List.mem_singleton.1 ha).symm, rfl⟩

/-! ## The client -/

theorem reaches_take (p : Pipeline) (i : Input) :
    Reaches stamp p { p with scene := p.scene.take i } := by
  rw [Scene.take_eq]
  exact .single (x := .client p.scene.moment i) (by simp)

theorem reaches_stage (p : Pipeline) (t : Transport) (now : Nat) :
    Reaches stamp p { p with scene := { p.scene with transport := t, now } } :=
  .single (x := .stage t now) (by simp)

theorem reaches_settleWithin (bound : Nat) (p : Pipeline) :
    Reaches stamp p { p with scene := p.scene.settleWithin bound } := by
  induction bound generalizing p with
  | zero => exact .refl p
  | succ bound ih =>
      rw [Scene.settleWithin]
      cases hnext : p.scene.next? with
      | none => exact .refl p
      | some x =>
          obtain ⟨i, s⟩ := x
          obtain ⟨t, rfl⟩ := Scene.next?_eq_some hnext
          exact (reaches_stage p t p.scene.now).trans ((reaches_take _ i).trans (ih _))

theorem reaches_sleepWithin (target bound : Nat) (p : Pipeline) :
    Reaches stamp p { p with scene := p.scene.sleepWithin target bound } := by
  have hsettle : ∀ (p : Pipeline) (now : Nat),
      Reaches stamp p { p with scene := { p.scene with now }.settle } := fun p now ↦
    (reaches_stage p p.scene.transport now).trans (reaches_settleWithin _ _)
  induction bound generalizing p with
  | zero => exact hsettle p target
  | succ bound ih =>
      rw [Scene.sleepWithin]
      cases p.scene.deadline? target with
      | none => exact hsettle p target
      | some time => exact (hsettle p _).trans (ih _)

/-! ## The router -/

theorem pump_of_receive {r : Broadcast.Received Event} {next : Nat}
    (hreceive : p.scene.events.receive p.taken = (r, next)) (hr : r ≠ .nothing) :
    p.pump.1.scene.events = p.scene.events ∧ p.pump.1.taken = next := by
  cases r with
  | message e => simp [pump, hreceive, publish]
  | lagged count => simp [pump, hreceive, report]
  | nothing => exact absurd rfl hr

/-- To take all is to take one and then all that are left. -/
theorem route_of_receive {all : List Event} (h : p.scene.events.Holds all)
    (hle : p.taken ≤ all.length) {r : Broadcast.Received Event} {next : Nat}
    (hreceive : p.scene.events.receive p.taken = (r, next)) (hr : r ≠ .nothing) :
    p.route = p.pump.1.route := by
  have hall := h.receiveAll_cons hle hreceive hr
  cases r with
  | message e =>
      simp only [pump, hreceive]
      rw [route, hall]
      rfl
  | lagged count =>
      simp only [pump, hreceive]
      rw [route, hall]
      rfl
  | nothing => exact absurd rfl hr

theorem route_of_end {all : List Event} (h : p.scene.events.Holds all)
    (hend : p.taken = all.length) : p.route = p := by
  have hnone : p.scene.events.receiveAll p.taken = ([], p.taken) := by
    rw [h.receiveAll_of_kept (hend ▸ h.oldest_le) hend.le, hend, List.drop_length, List.map_nil]
  rw [route, hnone]
  rfl

/-- The router takes its events one by one until none is left. -/
theorem reaches_route (stamp : Nat → Stamp) {all : List Event} (h : p.scene.events.Holds all)
    (hle : p.taken ≤ all.length) :
    Reaches stamp p p.route ∧ p.route.taken = p.route.scene.events.sent := by
  -- Whatever is received brings the router nearer to the end.
  induction hleft : all.length - p.taken using Nat.strong_induction_on generalizing p with
  | _ left ih =>
      rcases hreceive : p.scene.events.receive p.taken with ⟨r, next⟩
      by_cases hr : r = .nothing
      · subst hr
        have hend := h.eq_length_of_nothing hle hreceive
        rw [route_of_end h hend]
        exact ⟨.refl p, hend.trans h.sent.symm⟩
      · obtain ⟨hlt, hnext⟩ := h.receive_advances hle hreceive hr
        obtain ⟨hevents, htaken⟩ := pump_of_receive hreceive hr
        have hpump : Reaches stamp p p.pump.1 := .single (x := .pump) (by simp)
        have hless : all.length - p.pump.1.taken < left := by
          rw [htaken]
          omega
        obtain ⟨hroute, hend⟩ := ih _ hless (hevents ▸ h) (htaken ▸ hnext) rfl
        rw [route_of_receive h hle hreceive hr]
        exact ⟨hpump.trans hroute, hend⟩

/-! ## The center -/

section Center

variable {all : List Routed} {feed : Subscription} {r : Routed}

theorem receiveAll_of_kept (h : p.router.channel.Holds all)
    (hkept : p.router.channel.oldest ≤ feed.position) (hle : feed.position ≤ all.length) :
    feed.receiveAll p.router.channel =
      ((all.drop feed.position).filter feed.wants, { feed with position := all.length }, []) := by
  have hend : feed.position + (all.length - feed.position) = all.length := by omega
  rw [Subscription.receiveAll, Subscription.catchUp, if_neg (by omega)]
  simp only [h.since_eq hkept, List.length_drop, hend]

theorem receiveAll_of_lost (h : p.router.channel.Holds all)
    (hlost : feed.position < p.router.channel.oldest) :
    feed.receiveAll p.router.channel =
      ((all.drop p.router.channel.oldest).filter feed.wants,
        { feed with position := all.length }, (feed.catchUp p.router.channel).2) := by
  have hend : p.router.channel.oldest + (all.length - p.router.channel.oldest) = all.length := by
    have holdest := h.oldest_le
    omega
  rw [Subscription.receiveAll, Subscription.catchUp, if_pos hlost]
  simp only [h.since_eq le_rfl, List.length_drop, hend]
  rfl

theorem report_nil (p : Pipeline) : p.report [] = p := by
  rw [report, List.append_nil]

/-- The place of the subscription has no part in what the center does. -/
theorem ingest_withFeed (p : Pipeline) (stamp : Nat → Stamp) (feed : Subscription) (e : Event) :
    ((p.withFeed feed).ingest stamp e).1 = (p.ingest stamp e).1.withFeed feed := by
  cases h : Notification.alertOf? (stamp p.stamps) e with
  | none =>
      have h' : Notification.alertOf? (stamp (p.withFeed feed).stamps) e = none := h
      rw [ingest_of_no_alert h, ingest_of_no_alert h']
      rfl
  | some a =>
      have h' : Notification.alertOf? (stamp (p.withFeed feed).stamps) e = some a := h
      rw [ingest_of_alert h, ingest_of_alert h', raise, raise]
      cases hsink : p.sink with
      | log => simp [logged, withFeed, hsink, report]
      | listener present => cases present <;> simp [logged, withFeed, hsink]

def ingestAll (stamp : Nat → Stamp) (p : Pipeline) (events : List Routed) : Pipeline :=
  events.foldl (fun p r ↦ (p.ingest stamp r.event).1) p

theorem ingestAll_cons (p : Pipeline) (stamp : Nat → Stamp) (r : Routed) (events : List Routed) :
    p.ingestAll stamp (r :: events) = (p.ingest stamp r.event).1.ingestAll stamp events := rfl

/-- What the center does with events has no part in what is still to be routed. -/
theorem ingestAll_keeps (p : Pipeline) (stamp : Nat → Stamp) (events : List Routed) :
    (p.ingestAll stamp events).taken = p.taken ∧
      (p.ingestAll stamp events).scene.events = p.scene.events := by
  induction events generalizing p with
  | nil => exact ⟨rfl, rfl⟩
  | cons r events ih =>
      obtain ⟨center, alerts, log, hingest⟩ := p.ingest_eq stamp r.event
      rw [ingestAll_cons, (ih _).1, (ih _).2, hingest]
      exact ⟨rfl, rfl⟩

theorem consume_keeps (p : Pipeline) (stamp : Nat → Stamp) :
    (p.consume stamp).taken = p.taken ∧ (p.consume stamp).scene.events = p.scene.events := by
  cases hfeed : p.feed with
  | none => simp [consume, hfeed]
  | some feed =>
      simp only [consume, hfeed]
      exact ingestAll_keeps _ stamp _

theorem consume_of_kept (hfeed : p.feed = some feed) (h : p.router.channel.Holds all)
    (hkept : p.router.channel.oldest ≤ feed.position) (hle : feed.position ≤ all.length) :
    p.consume stamp =
      (p.withFeed { feed with position := all.length }).ingestAll stamp
        ((all.drop feed.position).filter feed.wants) := by
  simp only [consume, hfeed, receiveAll_of_kept h hkept hle, report_nil]
  rfl

theorem consume_of_lost (hfeed : p.feed = some feed) (h : p.router.channel.Holds all)
    (hlost : feed.position < p.router.channel.oldest) :
    p.consume stamp =
      ((p.withFeed { feed with position := all.length }).report
        (feed.catchUp p.router.channel).2).ingestAll stamp
          ((all.drop p.router.channel.oldest).filter feed.wants) := by
  simp only [consume, hfeed, receiveAll_of_lost h hlost]
  rfl

theorem digest_of_lost (stamp : Nat → Stamp) (hfeed : p.feed = some feed)
    (hlost : feed.position < p.router.channel.oldest)
    (hreceive : p.router.channel.receive feed.position =
      (.lagged (p.router.channel.oldest - feed.position), p.router.channel.oldest)) :
    (p.digest stamp).1 =
      (p.withFeed { feed with position := p.router.channel.oldest }).report
        (feed.catchUp p.router.channel).2 := by
  simp only [digest, hfeed, hreceive, Subscription.catchUp, if_pos hlost]

theorem digest_of_message (stamp : Nat → Stamp) (hfeed : p.feed = some feed)
    (hreceive : p.router.channel.receive feed.position = (.message r, feed.position + 1)) :
    (p.digest stamp).1 =
      if feed.wants r then
        (p.ingest stamp r.event).1.withFeed { feed with position := feed.position + 1 }
      else p.withFeed { feed with position := feed.position + 1 } := by
  simp only [digest, hfeed, hreceive, ← ingest_withFeed]
  split <;> rfl

/-- What is left to take after one message is found where the subscription then is. -/
theorem consume_digest_of_lost (stamp : Nat → Stamp) (hfeed : p.feed = some feed)
    (h : p.router.channel.Holds all) (hlost : feed.position < p.router.channel.oldest)
    (hreceive : p.router.channel.receive feed.position =
      (.lagged (p.router.channel.oldest - feed.position), p.router.channel.oldest)) :
    p.consume stamp = (p.digest stamp).1.consume stamp ∧ (p.digest stamp).1.router = p.router ∧
      (p.digest stamp).1.feed = some { feed with position := p.router.channel.oldest } := by
  have hdigest := digest_of_lost stamp hfeed hlost hreceive
  have hrouter : (p.digest stamp).1.router = p.router := by rw [hdigest]; rfl
  have hnext : (p.digest stamp).1.feed =
      some { feed with position := p.router.channel.oldest } := by rw [hdigest]; rfl
  refine ⟨?_, hrouter, hnext⟩
  rw [consume_of_lost hfeed h hlost,
    consume_of_kept hnext (hrouter.symm ▸ h) (by rw [hrouter]) h.oldest_le, hdigest]
  rfl

theorem consume_digest_of_message (stamp : Nat → Stamp) (hfeed : p.feed = some feed)
    (h : p.router.channel.Holds all) (hkept : p.router.channel.oldest ≤ feed.position)
    (hr : all[feed.position]? = some r)
    (hreceive : p.router.channel.receive feed.position = (.message r, feed.position + 1)) :
    p.consume stamp = (p.digest stamp).1.consume stamp ∧ (p.digest stamp).1.router = p.router ∧
      (p.digest stamp).1.feed = some { feed with position := feed.position + 1 } := by
  have hdigest := digest_of_message stamp hfeed hreceive
  obtain ⟨center, alerts, log, hingest⟩ := p.ingest_eq stamp r.event
  obtain ⟨hlt, hr⟩ := List.getElem?_eq_some_iff.1 hr
  have hrouter : (p.digest stamp).1.router = p.router := by
    rw [hdigest, hingest]
    split <;> rfl
  have hnext : (p.digest stamp).1.feed = some { feed with position := feed.position + 1 } := by
    rw [hdigest]
    split <;> rfl
  refine ⟨?_, hrouter, hnext⟩
  rw [consume_of_kept hfeed h hkept hlt.le,
    consume_of_kept hnext (hrouter.symm ▸ h) (hrouter ▸ hkept.trans (Nat.le_succ _)) hlt,
    List.drop_eq_getElem_cons hlt, hr, List.filter_cons, hdigest]
  by_cases hwants : feed.wants r = true
  · rw [if_pos hwants, if_pos hwants, ingestAll_cons, ingest_withFeed]
    rfl
  · rw [if_neg hwants, if_neg hwants]
    rfl

theorem consume_of_end (hfeed : p.feed = some feed) (h : p.router.channel.Holds all)
    (hend : feed.position = all.length) : p.consume stamp = p := by
  have hsame : p = p.withFeed { feed with position := all.length } := by
    rw [← hend, withFeed, ← hfeed]
  rw [consume_of_kept hfeed h (hend ▸ h.oldest_le) hend.le, hend, List.drop_length]
  exact hsame.symm

/-- The center takes its events one by one until none is left. -/
theorem reaches_consume (stamp : Nat → Stamp) (hfeed : p.feed = some feed)
    (h : p.router.channel.Holds all) (hle : feed.position ≤ all.length) :
    Reaches stamp p (p.consume stamp) ∧
      (p.consume stamp).feed.map (·.position) = some (p.consume stamp).router.channel.sent := by
  induction hleft : all.length - feed.position using Nat.strong_induction_on
    generalizing p feed with
  | _ left ih =>
      have hdigest : Reaches stamp p (p.digest stamp).1 := .single (x := .digest) (by simp)
      have hstep : ∀ next, feed.position < next → next ≤ all.length →
          p.consume stamp = (p.digest stamp).1.consume stamp ∧
            (p.digest stamp).1.router = p.router ∧
              (p.digest stamp).1.feed = some { feed with position := next } →
          Reaches stamp p (p.consume stamp) ∧ (p.consume stamp).feed.map (·.position) =
            some (p.consume stamp).router.channel.sent := by
        rintro next hlt hnext ⟨hconsume, hrouter, hmoved⟩
        obtain ⟨hlater, hend⟩ :=
          ih (all.length - next) (by omega) hmoved (hrouter.symm ▸ h) hnext rfl
        rw [hconsume]
        exact ⟨hdigest.trans hlater, hend⟩
      rcases h.receive_cases hle with ⟨hlost, heq⟩ | ⟨r, hkept, hr, heq⟩ | ⟨hend, -⟩
      · exact hstep _ hlost h.oldest_le (consume_digest_of_lost stamp hfeed h hlost heq)
      · obtain ⟨hlt, -⟩ := List.getElem?_eq_some_iff.1 hr
        exact hstep _ (Nat.lt_succ_self _) hlt
          (consume_digest_of_message stamp hfeed h hkept hr heq)
      · rw [consume_of_end hfeed h hend, hfeed, h.sent, ← hend]
        exact ⟨.refl p, rfl⟩

end Center

end Pipeline

section Settling

variable {c : Config} {stamp : Nat → Stamp} {moves : List Move} {p : Pipeline} {notes : List Note}

theorem Flowing.of_reaches (h : Flowing c moves p notes) {p' : Pipeline}
    (hreaches : p.Reaches stamp p') : ∃ moves' notes', Flowing c moves' p' notes' := by
  obtain ⟨more, -, rfl⟩ := hreaches
  exact ⟨_, _, h.play stamp more⟩

theorem Flowing.reaches_batches (h : Flowing c moves p notes) (stamp : Nat → Stamp) :
    p.Reaches stamp (p.route.consume stamp) ∧ (p.route.consume stamp).Drained := by
  obtain ⟨hroute, hpumped⟩ := Pipeline.reaches_route stamp h.events h.taken.within
  obtain ⟨_, _, hrouted⟩ := h.of_reaches hroute
  obtain ⟨position, hfeed, hfollows⟩ := hrouted.feed
  obtain ⟨hconsume, hdigested⟩ := Pipeline.reaches_consume stamp hfeed hrouted.channel
    (by rw [List.length_map]; exact hfollows.within)
  obtain ⟨htaken, hevents⟩ := p.route.consume_keeps stamp
  refine ⟨hroute.trans hconsume, ?_, hdigested⟩
  rw [htaken, hevents, hpumped]

theorem Flowing.reaches_settle (h : Flowing c moves p notes) (stamp : Nat → Stamp) :
    p.Reaches stamp (p.settle stamp) ∧ (p.settle stamp).Drained := by
  have hscene : p.Reaches stamp { p with scene := p.scene.settle } :=
    Pipeline.reaches_settleWithin _ p
  obtain ⟨_, _, hsettled⟩ := h.of_reaches hscene
  exact (hsettled.reaches_batches stamp).imp_left hscene.trans

theorem Flowing.reaches_sleep (h : Flowing c moves p notes) (stamp : Nat → Stamp) (millis : Nat) :
    p.Reaches stamp (p.sleep stamp millis) ∧ (p.sleep stamp millis).Drained := by
  have hscene : p.Reaches stamp { p with scene := p.scene.sleep millis } :=
    Pipeline.reaches_sleepWithin _ _ p
  obtain ⟨_, _, hslept⟩ := h.of_reaches hscene
  exact (hslept.reaches_batches stamp).imp_left hscene.trans

end Settling

/-- Of the events that the client receives, the center takes those of the four categories, in order
and none twice; all of them, and nothing else, if no receiver is overrun and the channels are
drained. This holds of every interleaving of the three, and what they do at once when the pipeline
settles or time passes is one of these, which drains the channels. -/
theorem received_events_delivered (c : Config) (capacity : Nat) (s : Settings.Notifications)
    (sink : Sink) (stamp : Nat → Stamp) (moves : List Move) :
    Delivered c stamp s.capacity.toNat moves
        ((Pipeline.initial c capacity s sink).play stamp moves).1
        ((Pipeline.initial c capacity s sink).play stamp moves).2 ∧
      (((Pipeline.initial c capacity s sink).play stamp moves).1.Reaches stamp
          (((Pipeline.initial c capacity s sink).play stamp moves).1.settle stamp) ∧
        (((Pipeline.initial c capacity s sink).play stamp moves).1.settle stamp).Drained) ∧
      ∀ millis, ((Pipeline.initial c capacity s sink).play stamp moves).1.Reaches stamp
          (((Pipeline.initial c capacity s sink).play stamp moves).1.sleep stamp millis) ∧
        (((Pipeline.initial c capacity s sink).play stamp moves).1.sleep stamp millis).Drained := by
  have h := flowing_play c capacity s sink stamp moves
  exact ⟨delivered_play c capacity s sink stamp moves, h.reaches_settle stamp,
    h.reaches_sleep stamp⟩

/-- Two frames that are events come in, one of them wanted, and one that is none. -/
def mixed : List Move :=
  [.client (.clear 0) (.command (.connect none)), .client (.clear 0) .begin,
    .client (.clear 0) (.opened 1),
    .client (.clear 0) (.frame 1 "\x7b\"type\":\"user_login\"\x7d"), .pump,
    .client (.clear 0) (.frame 1 "["),
    .client (.clear 0) (.frame 1 "\x7b\"type\":\"notification\"\x7d"), .digest, .pump, .digest]

def newYear (n : Nat) : Stamp where
  suffix := toString n
  time := ⟨⟨2026, by decide⟩, ⟨1, by decide⟩, ⟨1, by decide⟩, ⟨0, by decide⟩, ⟨0, by decide⟩,
    ⟨0, by decide⟩, ⟨0, by decide⟩⟩

def ofMixed : Pipeline × List Note :=
  (Pipeline.initial .default 16 .default (.listener true)).play newYear mixed

theorem mixed_delivered :
    Lossless ofMixed.2 ∧ ofMixed.1.Drained ∧ (∀ a, .operate a ∉ mixed) ∧
      (ingested ofMixed.2).map (·.type) = ["notification"] ∧
      ofMixed.1.center.log.records.map (·.title) = ["Notification"] ∧
      ofMixed.1.Raised [⟨"Notification", "You have a new notification", .info⟩] ∧
      (ofMixed.1.settle newYear).Drained := by
  obtain ⟨hdelivered, ⟨-, hsettled⟩, -⟩ :=
    received_events_delivered .default 16 .default (.listener true) newYear mixed
  rw [← ofMixed] at hdelivered hsettled
  have hlossless : Lossless ofMixed.2 := by decide +kernel
  have hdrained : ofMixed.1.Drained := by decide +kernel
  have hmoves : ∀ a, .operate a ∉ mixed := by simp [mixed]
  have hingested := hdelivered.complete hlossless hdrained
  have hlog := hdelivered.log hmoves
  have hraised := hdelivered.alerts hmoves
  refine ⟨hlossless, hdrained, hmoves, ?_, ?_, ?_, hsettled⟩
  · rw [hingested]
    decide +kernel
  · rw [hlog, hingested]
    decide +kernel
  · have halerts : alertsOf newYear (ingested ofMixed.2) =
        [⟨"Notification", "You have a new notification", .info⟩] := by
      rw [hingested]
      decide +kernel
    rwa [halerts] at hraised

end EventFeed.Scenario
