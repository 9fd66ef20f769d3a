import EventFeed.Notification.Session
import EventFeed.Proofs.Connection.ServerView
import Mathlib.Data.List.Sort
import Mathlib.Data.List.TakeWhile

/-!
# The topics a client keeps

A command about a topic says whether it is wanted, and `lastWish` is what the last of them said. It
alone decides which topics a client has, whatever happens to its connection in between; so runs
with the same last wishes start their next connections with the same frames. The main result is
`topics_as_wished`.
-/

namespace EventFeed.Connection

/-- Whether a command wants a topic, if it is about that topic. -/
def Command.wish? (topic : Topic) : Command → Option Bool
  | .subscribe t => if t = topic then some true else none
  | .unsubscribe t => if t = topic then some false else none
  | _ => none

def Input.wish? (topic : Topic) : Input → Option Bool
  | .command request => request.wish? topic
  | _ => none

/-- The inputs up to the one that stops the client. -/
def untilStop (inputs : List (Moment × Input)) : List (Moment × Input) :=
  inputs.takeWhile fun x ↦ x.2 ≠ .command .stop

/-- What the last of the commands about a topic said, if there was one. -/
def lastWish (topic : Topic) (inputs : List (Moment × Input)) : Option Bool :=
  ((untilStop inputs).filterMap fun x ↦ x.2.wish? topic).getLast?

namespace Topics

theorem ext_mem {s t : Topics} (h : ∀ topic, topic ∈ s ↔ topic ∈ t) : s = t := by
  have : Std.Irrefl fun a b : Topic ↦ a < b := ⟨String.lt_irrefl⟩
  obtain ⟨xs, hxs⟩ := s
  obtain ⟨ys, hys⟩ := t
  obtain rfl : xs = ys := List.Pairwise.eq_of_mem_iff hxs hys h
  rfl

end Topics

section Wishes

variable {topic : Topic} {inputs rest : List (Moment × Input)} {i : Input}

theorem Input.wish?_eq_none (hsubscribe : ∀ t, i ≠ .command (.subscribe t))
    (hunsubscribe : ∀ t, i ≠ .command (.unsubscribe t)) : i.wish? topic = none := by
  cases i with
  | command command =>
      cases command with
      | subscribe t => exact absurd rfl (hsubscribe t)
      | unsubscribe t => exact absurd rfl (hunsubscribe t)
      | _ => rfl
  | _ => rfl

theorem untilStop_eq_self (h : ∀ x ∈ inputs, x.2 ≠ .command .stop) :
    untilStop inputs = inputs :=
  List.takeWhile_eq_self_iff.2 fun x hx ↦ decide_eq_true (h x hx)

theorem lastWish_append (h : ∀ x ∈ inputs, x.2 ≠ .command .stop)
    (rest : List (Moment × Input)) :
    lastWish topic (inputs ++ rest) = (lastWish topic rest).or (lastWish topic inputs) := by
  have hall : ∀ x ∈ inputs, decide (x.2 ≠ .command .stop) = true :=
    fun x hx ↦ decide_eq_true (h x hx)
  rw [lastWish, untilStop, List.takeWhile_append_of_pos hall, List.filterMap_append,
    List.getLast?_append, lastWish, lastWish, untilStop_eq_self h]
  rfl

/-- Nothing counts after the input that stops the client. -/
theorem lastWish_append_of_stop (h : ∃ x ∈ inputs, x.2 = .command .stop)
    (rest : List (Moment × Input)) : lastWish topic (inputs ++ rest) = lastWish topic inputs := by
  have hshort : (untilStop inputs).length ≠ inputs.length := by
    intro hlength
    obtain ⟨x, hx, hstop⟩ := h
    have hself := (List.takeWhile_prefix _).eq_of_length hlength
    exact of_decide_eq_true (List.takeWhile_eq_self_iff.1 hself x hx) hstop
  rw [untilStop] at hshort
  rw [lastWish, untilStop, List.takeWhile_append, if_neg hshort, lastWish, untilStop]

theorem lastWish_singleton (m : Moment) (i : Input) :
    lastWish topic [(m, i)] = i.wish? topic := by
  by_cases hstop : i = .command .stop
  · subst hstop
    rfl
  · rw [lastWish, untilStop_eq_self (by simpa using hstop)]
    cases hwish : i.wish? topic <;> simp [hwish]

end Wishes

namespace Client

section Steps

variable {c : Config} {m : Moment} {s s' : Client} {i : Input} {effects : List Effect}
  {topic : Topic}

theorem Wish.mem_iff {before after : Topics} {command : Command} {frame : Frame.Control}
    {entry : Telemetry.Entry} (w : Wish before command after frame entry) (topic : Topic) :
    topic ∈ after ↔
      command.wish? topic = some true ∨ command.wish? topic = none ∧ topic ∈ before := by
  cases w with
  | subscribe t => by_cases h : topic = t <;> simp [Command.wish?, h, eq_comm]
  | unsubscribe t => by_cases h : topic = t <;> simp [Command.wish?, h, eq_comm]

theorem Wish.ne_stop {before after : Topics} {command : Command} {frame : Frame.Control}
    {entry : Telemetry.Entry} (w : Wish before command after frame entry) : command ≠ .stop := by
  cases w <;> simp

theorem Fails.wish?_eq_none {f : Fault} (h : s.Fails c m i f) : i.wish? topic = none := by
  cases h <;> rfl

theorem Fails.ne_stop {f : Fault} (h : s.Fails c m i f) : i ≠ .command .stop := by
  cases h <;> simp

theorem wish?_of_ignored (hlive : s.stopped = false) (hi : s.stopped = true ∨ s.Ignores m i) :
    i.wish? topic = none := by
  have hignored : s.Ignores m i := hi.resolve_left (by simp [hlive])
  cases i with
  | command command =>
      cases command with
      | subscribe t => exact hignored.elim
      | unsubscribe t => exact hignored.elim
      | _ => rfl
  | _ => rfl

/-- The wish of an input is the only thing by which a client changes its topics. -/
theorem mem_topics_reaction (r : Reaction c m s i s' effects) (hlive : s.stopped = false)
    (topic : Topic) :
    topic ∈ s'.topics ↔ i.wish? topic = some true ∨ i.wish? topic = none ∧ topic ∈ s.topics := by
  cases r with
  | ignored hi => simp [wish?_of_ignored hlive hi]
  | noted w => exact w.mem_iff topic
  | told w => exact w.mem_iff topic
  | untold w =>
      rw [topics_lose]
      exact w.mem_iff topic
  | failed hfails => simp [hfails.wish?_eq_none]
  | _ => simp [Input.wish?, Command.wish?, dial, hangUp, accept]

theorem stopped_reaction (r : Reaction c m s i s' effects) :
    s'.stopped = true ↔ s.stopped = true ∨ i = .command .stop := by
  cases r with
  | ignored hi =>
      refine ⟨.inl, fun h ↦ h.elim id ?_⟩
      rintro rfl
      exact hi.resolve_right id
  | noted w => simp [w.ne_stop]
  | told w => simp [w.ne_stop]
  | untold w => simp [w.ne_stop]
  | failed hfails => simp [hfails.ne_stop]
  | _ => simp [dial, hangUp, accept]

/-- A connection starts with all topics. -/
theorem sentOn_step_opened (h : Settled c s) {call deadline : Nat}
    (hlink : s.link = .opening call deadline) (hsent : ∀ frame, m.refusal frame = none) :
    sentOn call (s.step c m (.opened call)).2 = s.topics.replay := by
  have hlive := h.stopped_eq_false (by simp [hlink])
  have r := reaction_step h m (.opened call)
  generalize (s.step c m (.opened call)).1 = s', (s.step c m (.opened call)).2 = effects at r ⊢
  cases r with
  | ignored hi => exact absurd hlink (hi.resolve_left (by simp [hlive]) deadline)
  | opened => simp [sentOn_sent]
  | broken _ _ _ hrefused => simp [hsent] at hrefused
  | failed hfails => cases hfails

theorem effects_step_status (h : Settled c s) (hlive : s.stopped = false) (m : Moment) :
    (s.step c m (.command .status)).2 = [.answer s.snapshot] := by
  have r := reaction_step h m (.command .status)
  generalize (s.step c m (.command .status)).1 = s',
    (s.step c m (.command .status)).2 = effects at r ⊢
  cases r with
  | ignored hi => exact (hi.resolve_left (by simp [hlive])).elim
  | asked => rfl
  | noted w => cases w
  | told w => cases w
  | untold w => cases w
  | failed hfails => cases hfails

end Steps

section Runs

variable (c : Config) (inputs : List (Moment × Input))

theorem stopped_after_iff :
    (after c inputs).stopped = true ↔ ∃ x ∈ inputs, x.2 = .command .stop := by
  induction inputs using List.reverseRecOn with
  | nil => simp [initial]
  | append_singleton inputs x ih =>
      obtain ⟨m, i⟩ := x
      rw [after_concat, stopped_reaction (reaction_step (settled_after c inputs) m i), ih]
      simp [or_and_right, exists_or]

variable {c inputs}

theorem forall_ne_stop (hlive : (after c inputs).stopped = false) :
    ∀ x ∈ inputs, x.2 ≠ .command .stop := by
  intro x hx hstop
  simp [(stopped_after_iff c inputs).2 ⟨x, hx, hstop⟩] at hlive

variable (c inputs)

theorem mem_topics_after (topic : Topic) :
    topic ∈ (after c inputs).topics ↔ lastWish topic inputs = some true := by
  induction inputs using List.reverseRecOn with
  | nil => simp [initial, lastWish, untilStop]
  | append_singleton inputs x ih =>
      obtain ⟨m, i⟩ := x
      rw [after_concat]
      cases hlive : (after c inputs).stopped with
      | true =>
          rw [step_of_stopped c m i hlive,
            lastWish_append_of_stop ((stopped_after_iff c inputs).1 hlive), ih]
      | false =>
          have r := reaction_step (settled_after c inputs) m i
          rw [mem_topics_reaction r hlive, lastWish_append (forall_ne_stop hlive),
            lastWish_singleton, ih]
          cases i.wish? topic <;> simp

theorem topics_concat (m : Moment) {i : Input} (hsubscribe : ∀ t, i ≠ .command (.subscribe t))
    (hunsubscribe : ∀ t, i ≠ .command (.unsubscribe t)) :
    (after c (inputs ++ [(m, i)])).topics = (after c inputs).topics := by
  rw [after_concat]
  cases hlive : (after c inputs).stopped with
  | true => rw [step_of_stopped c m i hlive]
  | false =>
      have r := reaction_step (settled_after c inputs) m i
      refine Topics.ext_mem fun topic ↦ ?_
      rw [mem_topics_reaction r hlive, Input.wish?_eq_none hsubscribe hunsubscribe]
      simp

theorem lastWish_commands {sent : List (Moment × Command)} (h : .stop ∉ sent.map Prod.snd)
    (topic : Topic) :
    lastWish topic (sent.map fun x ↦ (x.1, .command x.2)) =
      ((sent.map Prod.snd).filterMap (Command.wish? topic)).getLast? := by
  have hstop : ∀ x ∈ sent.map fun x ↦ (x.1, Input.command x.2), x.2 ≠ .command .stop := by
    intro x hx hx'
    obtain ⟨y, hy, rfl⟩ := List.mem_map.1 hx
    exact h (List.mem_map.2 ⟨y, hy, Input.command.inj hx'⟩)
  rw [lastWish, untilStop_eq_self hstop, List.filterMap_map, List.filterMap_map]
  rfl

/-- A sign-in wants the topics of the session and is about no others, and a sign-out is about
none. -/
theorem getLast?_wishes_follow (session : Notification.Session) (value : Option Token)
    (topic : Topic) :
    ((session.follow value).filterMap (Command.wish? topic)).getLast? =
      if value.isSome ∧ topic ∈ session.topics then some true else none := by
  cases value with
  | none => rfl
  | some token =>
      have htopics : (session.topics.map Command.subscribe).filterMap (Command.wish? topic) =
          List.replicate (session.topics.count topic) true := by
        induction session.topics with
        | nil => rfl
        | cons t topics ih =>
            by_cases h : t = topic <;> simp [Command.wish?, h, ih, List.replicate_succ]
      rw [Notification.Session.follow, Notification.Session.start, List.filterMap_append, htopics]
      simp [Command.wish?, List.getLast?_replicate, List.count_eq_zero]

theorem mem_topics_follow (session : Notification.Session) (value : Option Token)
    {sent : List (Moment × Command)} (hsent : sent.map Prod.snd = session.follow value)
    (hlive : (after c inputs).stopped = false) (topic : Topic) :
    topic ∈ (after c (inputs ++ sent.map fun x ↦ (x.1, .command x.2))).topics ↔
      topic ∈ (after c inputs).topics ∨ value.isSome ∧ topic ∈ session.topics := by
  have hstop : Command.stop ∉ sent.map Prod.snd := by
    rw [hsent]
    cases value <;> simp [Notification.Session.follow, Notification.Session.start,
      Notification.Session.finish]
  rw [mem_topics_after, mem_topics_after, lastWish_append (forall_ne_stop hlive),
    lastWish_commands hstop, hsent, getLast?_wishes_follow]
  by_cases h : value.isSome ∧ topic ∈ session.topics <;> simp [h]

end Runs

/-- How the topics of a client come about. -/
structure Remembered (c : Config) (inputs : List (Moment × Input)) : Prop where
  /-- A client has the topics whose last command was a subscription. -/
  wished : ∀ topic, topic ∈ (after c inputs).topics ↔ lastWish topic inputs = some true
  /-- Nothing else that happens changes them. -/
  unmoved : ∀ m i, (∀ topic, i ≠ .command (.subscribe topic)) →
    (∀ topic, i ≠ .command (.unsubscribe topic)) →
      (after c (inputs ++ [(m, i)])).topics = (after c inputs).topics
  /-- A sign-in adds the topics of the session, and a sign-out changes nothing. -/
  session : ∀ (session : Notification.Session) (value : Option Token)
    (sent : List (Moment × Command)), sent.map Prod.snd = session.follow value →
      (after c inputs).stopped = false → ∀ topic,
        topic ∈ (after c (inputs ++ sent.map fun x ↦ (x.1, .command x.2))).topics ↔
          topic ∈ (after c inputs).topics ∨ value.isSome ∧ topic ∈ session.topics
  /-- Those who ask are told them in increasing order. -/
  answered : ∀ m, (after c inputs).stopped = false → ∃ status : Status,
    ((after c inputs).step c m (.command .status)).2 = [.answer status] ∧
      status.topics.Pairwise (· < ·) ∧
        ∀ topic, topic ∈ status.topics ↔ lastWish topic inputs = some true

theorem remembered_after (c : Config) (inputs : List (Moment × Input)) : Remembered c inputs where
  wished := mem_topics_after c inputs
  unmoved m _ := topics_concat c inputs m
  session session value _ hsent hlive topic :=
    mem_topics_follow c inputs session value hsent hlive topic
  answered m hlive := ⟨(after c inputs).snapshot,
    effects_step_status (settled_after c inputs) hlive m, (after c inputs).topics.sorted,
    mem_topics_after c inputs⟩

/-- The topics of a client are those whose last command was a subscription, and nothing else that
happens to it changes them. So after runs with the same last commands the next connections start
with the same frames: one for each of these topics, in increasing order. -/
theorem topics_as_wished (c : Config) (inputs : List (Moment × Input)) :
    Remembered c inputs ∧
      ∀ (c' : Config) (inputs' : List (Moment × Input)),
        (∀ topic, lastWish topic inputs = lastWish topic inputs') →
        ∀ (m m' : Moment) (call call' deadline deadline' : Nat),
          (after c inputs).link = .opening call deadline →
          (after c' inputs').link = .opening call' deadline' →
          (∀ frame, m.refusal frame = none) → (∀ frame, m'.refusal frame = none) →
          ∃ topics : List Topic, topics.Pairwise (· < ·) ∧
            (∀ topic, topic ∈ topics ↔ lastWish topic inputs = some true) ∧
            sentOn call ((after c inputs).step c m (.opened call)).2 =
              topics.map .subscribe ∧
            sentOn call' ((after c' inputs').step c' m' (.opened call')).2 =
              topics.map .subscribe := by
  refine ⟨remembered_after c inputs, ?_⟩
  intro c' inputs' hsame m m' call call' deadline deadline' hlink hlink' hsent hsent'
  have htopics : (after c' inputs').topics = (after c inputs).topics :=
    Topics.ext_mem fun topic ↦ by rw [mem_topics_after, mem_topics_after, hsame]
  refine ⟨(after c inputs).topics.toList, (after c inputs).topics.sorted,
    mem_topics_after c inputs, sentOn_step_opened (settled_after c inputs) hlink hsent, ?_⟩
  rw [sentOn_step_opened (settled_after c' inputs') hlink' hsent', htopics]
  rfl

/-- Two topics are asked for and one is given up again before there is a connection. -/
def undecided : List (Moment × Input) :=
  [(.clear 0, .command (.subscribe "cases")), (.clear 0, .command (.subscribe "alerts")),
    (.clear 0, .command (.unsubscribe "cases")), (.clear 0, .command (.connect none)),
    (.clear 0, .begin)]

/-- The one topic is asked for twice, and the other is given up without having been asked for, while
the first call is refused. -/
def insistent : List (Moment × Input) :=
  [(.clear 0, .command (.connect none)), (.clear 0, .command (.subscribe "alerts")),
    (.clear 0, .begin), (.clear 0, .refused 1 (.protocol "no")),
    (.clear 5, .command (.unsubscribe "cases")), (.clear 7, .command (.subscribe "alerts")),
    (.clear 1000, .retry), (.clear 1000, .begin)]

theorem undecided_replays_as_insistent :
    (∀ topic, lastWish topic undecided = lastWish topic insistent) ∧
      sentOn 1 ((after .default undecided).step .default (.clear 1) (.opened 1)).2 =
        sentOn 2 ((after .default insistent).step .default (.clear 1002) (.opened 2)).2 := by
  have hsame : ∀ topic, lastWish topic undecided = lastWish topic insistent := by
    intro topic
    by_cases hcases : "cases" = topic
    · subst hcases
      rfl
    · by_cases halerts : "alerts" = topic
      · subst halerts
        rfl
      · simp [lastWish, untilStop, undecided, insistent, Input.wish?, Command.wish?, hcases,
          halerts]
  obtain ⟨topics, -, -, hfirst, hsecond⟩ := (topics_as_wished .default undecided).2 .default
    insistent hsame (.clear 1) (.clear 1002) 1 2 _ _ rfl rfl (fun _ ↦ rfl) (fun _ ↦ rfl)
  exact ⟨hsame, hfirst.trans hsecond.symm⟩

end Client

end EventFeed.Connection
