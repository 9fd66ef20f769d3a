import EventFeed.Proofs.Connection.Reception
import EventFeed.Proofs.Telemetry.Recall

/-!
# Topics the server was not told of

A client that cannot tell the server of a topic reports so, once and after all else it reports of
the broken connection. The main result, `undelivered_recalled`, follows the topic from the command
into the memory of warnings and back out of it by a query.
-/

namespace EventFeed.Connection

open Telemetry (Memory Query unquoted IsQuoted)

@[simp] def Effect.entry? : Effect → Option Telemetry.Entry
  | .report entry => some entry
  | .open .. | .send .. | .close _ | .become _ | .publish _ | .answer _ => none

/-- What is reported, in order. -/
def reports (effects : List Effect) : List Telemetry.Entry := effects.filterMap Effect.entry?

/-- The commands about a topic: the frame that tells the server, and the report if it is not
sent. -/
inductive About (topic : Topic) : Command → Frame.Control → Telemetry.Entry → Prop
  | subscribe :
      About topic (.subscribe topic) (.subscribe topic) (Report.subscribeLost topic)
  | unsubscribe :
      About topic (.unsubscribe topic) (.unsubscribe topic) (Report.unsubscribeLost topic)

section Reports

variable {topic : Topic} {command : Command} {frame : Frame.Control} {lost : Telemetry.Entry}

theorem About.level (h : About topic command frame lost) : lost.level = .warn := by
  cases h <;> rfl

theorem About.isKept (h : About topic command frame lost) : lost.isKept = true := by
  cases h <;> rfl

theorem About.topic? (h : About topic command frame lost) :
    lost.topic? = some (unquoted topic) := by
  cases h <;> rfl

theorem About.exists_wish (h : About topic command frame lost) (topics : Topics) :
    ∃ topics', Client.Wish topics command topics' frame lost := by
  cases h with
  | subscribe => exact ⟨_, .subscribe topic⟩
  | unsubscribe => exact ⟨_, .unsubscribe topic⟩

theorem Client.Wish.unique {topics first second : Topics} {frame frame' : Frame.Control}
    {lost lost' : Telemetry.Entry} (w : Wish topics command first frame lost)
    (w' : Wish topics command second frame' lost') : frame = frame' ∧ lost = lost' := by
  cases w <;> cases w' <;> exact ⟨rfl, rfl⟩

end Reports

namespace Client

variable {c : Config} {m : Moment} {s : Client} {topic : Topic} {command : Command}
  {frame : Frame.Control} {lost : Telemetry.Entry} {f : Fault}

theorem reports_lossEffects (c : Config) (s : Client) :
    reports (s.lossEffects c) =
      if c.backoff.allows s.attempts then [] else [Report.exhausted s.attempts] := by
  rw [lossEffects]
  split <;> rfl

theorem reports_faultEffects (c : Config) (f : Fault) (s : Client) :
    reports (s.faultEffects c f) = Report.fault f :: reports (s.lossEffects c) := by
  rw [faultEffects]
  cases s.link <;> rfl

/-- A broken connection is reported by warnings without a topic. -/
theorem warning_of_mem_faultEffects {entry : Telemetry.Entry}
    (h : entry ∈ reports (s.faultEffects c f)) :
    entry.topic? = none ∧ entry.isKept = true := by
  rw [reports_faultEffects, reports_lossEffects, List.mem_cons] at h
  rcases h with rfl | h
  · exact ⟨rfl, rfl⟩
  · split at h
    · cases h
    · rw [List.mem_singleton.1 h]
      exact ⟨rfl, rfl⟩

/-- What a client does that is connected and cannot tell the server of a topic. -/
theorem step_of_refused (h : Settled c s) (habout : About topic command frame lost)
    (hconnected : s.state = .connected) (hrefused : m.refusal frame = some f) :
    (s.step c m (.command command)).2 = s.faultEffects c f ++ [.report lost] := by
  have hopen : s.link.isOpen = true := h.state_eq_connected_iff.1 hconnected
  obtain ⟨call, hlink⟩ := Link.isOpen_iff.1 hopen
  have hlive : s.stopped = false := h.stopped_eq_false (by simp [hlink])
  obtain ⟨topics, wish⟩ := habout.exists_wish s.topics
  have hreaction := reaction_step h m (.command command)
  generalize (s.step c m (.command command)).1 = s' at hreaction
  generalize (s.step c m (.command command)).2 = effects at hreaction ⊢
  cases hreaction with
  | untold w _ hfault =>
      obtain ⟨rfl, rfl⟩ := w.unique wish
      rw [hrefused] at hfault
      cases hfault
      rfl
  | ignored hi => cases habout <;> simp [hlive, Ignores] at hi
  | noted _ hclosed => simp [hopen] at hclosed
  | told w _ hsent =>
      obtain ⟨rfl, rfl⟩ := w.unique wish
      simp [hrefused] at hsent
  | failed hfails => cases hfails
  | _ => cases habout

theorem reports_of_refused (h : Settled c s) (habout : About topic command frame lost)
    (hconnected : s.state = .connected) (hrefused : m.refusal frame = some f) :
    reports (s.step c m (.command command)).2 = reports (s.faultEffects c f) ++ [lost] := by
  rw [step_of_refused h habout hconnected hrefused, reports, List.filterMap_append]
  rfl

/-- When a connected client cannot tell the server of a topic, the last of its reports, and no
other, names the topic. The record of it has the topic without the quotes around it, which is the
topic itself if there are none, and a query for that finds it first in every memory that takes
records, with its number and time. Whatever a memory has captured, a query for a topic finds only
records of entries that name it so. -/
theorem undelivered_recalled (c : Config) (inputs : List (Moment × Input))
    (habout : About topic command frame lost) (hconnected : (after c inputs).state = .connected)
    (hrefused : m.refusal frame = some f) :
    (∃ earlier, reports ((after c inputs).step c m (.command command)).2 = earlier ++ [lost] ∧
      ∀ entry ∈ earlier, entry.topic? = none) ∧
    (lost.level = .warn ∧ lost.isKept = true ∧ lost.topic? = some (unquoted topic) ∧
      (unquoted topic = topic ↔ ¬ IsQuoted topic)) ∧
    (∀ (memory : Memory) (log : List (Time.Instant × Telemetry.Entry)) (limit : Option Nat),
      0 < memory.capacity → limit ≠ some 0 →
      log.map (·.2) = reports ((after c inputs).step c m (.command command)).2 →
      ∃ first time, log = first ++ [(time, lost)] ∧
        ((memory.captureAll log).query (.forTopic (unquoted topic) limit)).head? =
          some (lost.toRecord (memory.nextId + first.length) time)) ∧
    ∀ (capacity : Nat) (log : List (Time.Instant × Telemetry.Entry)) (q : Query)
      (recorded : String), q.topic = some recorded →
      ∀ r ∈ ((Memory.empty capacity).captureAll log).query q,
        ∃ x ∈ log, (∃ id, r = x.2.toRecord id x.1) ∧
          (("topic", .text recorded) ∈ x.2.values ∨
            ∃ written, ("topic", .shown written) ∈ x.2.values ∧ unquoted written = recorded) := by
  have hreports := reports_of_refused (settled_after c inputs) habout hconnected hrefused
  refine ⟨⟨_, hreports, fun _ h ↦ (warning_of_mem_faultEffects h).1⟩,
    ⟨habout.level, habout.isKept, habout.topic?, Telemetry.unquoted_eq_self_iff⟩, ?_, ?_⟩
  · intro memory log limit hcapacity hlimit hlog
    rw [hreports] at hlog
    obtain ⟨first, last, rfl, hfirst, hlast⟩ := List.map_eq_append_iff.1 hlog
    obtain ⟨⟨time, entry⟩, rfl, rfl⟩ := List.map_eq_singleton_iff.1 hlast
    have hkept : ∀ x ∈ first, x.2.isKept = true := fun x hx ↦
      (warning_of_mem_faultEffects (hfirst ▸ List.mem_map_of_mem hx)).2
    refine ⟨first, time, rfl, ?_⟩
    rw [Memory.captureAll_append, ← Memory.nextId_captureAll hcapacity hkept]
    refine Memory.head?_query_capture (by simpa using hcapacity) habout.isKept ?_ hlimit
    rw [Query.accepts_forTopic, Telemetry.Entry.topic_toRecord]
    exact habout.topic?
  · intro capacity log q recorded hq r hr
    obtain ⟨x, hx, hrecord, htopic⟩ := Memory.exists_entry_of_query hq hr
    exact ⟨x, hx, hrecord, Telemetry.Entry.exists_field_of_topic? htopic⟩

/-- A moment at which no frame is sent. -/
def jammed : Moment := ⟨5, fun _ ↦ some (.sendFailed "broken pipe")⟩

/-- The memory of one warning after a command to a client that listens and cannot send. -/
def memoryAfter (time : Time.Instant) (command : Command) : Memory :=
  (Memory.empty 1).captureAll
    ((reports ((after .default listening).step .default jammed (.command command)).2).map (time, ·))

/-- The record comes after that of the broken connection, for which there is no more room. -/
theorem quote_inside_recalled :
    let time : Time.Instant := ⟨2026, 1, 1, 0, 0, 0, 0⟩
    ((memoryAfter time (.unsubscribe "a \"b\" c")).query
        (.forTopic "a \"b\" c" (some 1))).head? =
      some ((Report.unsubscribeLost "a \"b\" c").toRecord 2 time) := by
  intro time
  have habout : About "a \"b\" c" _ _ _ := .unsubscribe
  obtain ⟨-, ⟨-, -, -, hquoted⟩, hfound, -⟩ :=
    undelivered_recalled .default listening (m := jammed) habout (by decide) rfl
  have hsame : unquoted "a \"b\" c" = "a \"b\" c" := hquoted.2 (by decide)
  obtain ⟨first, last, hlog, hhead⟩ := hfound (.empty 1)
    ([(time, Report.fault (.sendFailed "broken pipe"))] ++
      [(time, Report.unsubscribeLost "a \"b\" c")]) (some 1) (by decide) (by decide) (by decide)
  obtain ⟨rfl, hlast⟩ := List.append_inj' hlog rfl
  obtain rfl : time = last := congrArg Prod.fst (List.singleton_inj.1 hlast)
  rw [hsame] at hhead
  exact hhead

theorem quoted_topic_not_recalled :
    (after .default listening).state = .connected ∧
      (memoryAfter ⟨2026, 1, 1, 0, 0, 0, 0⟩ (.subscribe "\"a\"")).query
        (.forTopic "\"a\"" none) = [] ∧
      ((memoryAfter ⟨2026, 1, 1, 0, 0, 0, 0⟩ (.subscribe "\"a\"")).query
        (.forTopic "a" none)).map (·.message) =
          ["subscribe not delivered, replayed on next connect"] := by
  decide

end Client

end EventFeed.Connection
