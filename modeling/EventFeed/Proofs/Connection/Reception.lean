import EventFeed.Proofs.Connection.Trace

/-!
# What is received and what is published

A client receives the texts that its connection brings while it has it. `published_eq_received` is
the main result: the events of a run are the received texts, decoded, without those that are no
events, and such a text leaves nothing behind but a warning.
-/

namespace EventFeed.Connection

@[simp] def Effect.event? : Effect → Option Event
  | .publish event => some event
  | .open .. | .send .. | .close _ | .become _ | .answer _ | .report _ => none

def published (effects : List Effect) : List Event := effects.filterMap Effect.event?

theorem quiet_event? : Quiet Effect.event? := ⟨fun _ ↦ rfl, fun _ ↦ rfl⟩

theorem filterMap_event?_release (l : Link) : l.release.filterMap Effect.event? = [] := by
  cases l <;> rfl

def eventOf? (text : String) : Option Event := (Frame.decode text).toOption

theorem eventOf?_of_ok {text : String} {event : Event} (h : Frame.decode text = .ok event) :
    eventOf? text = some event := by simp [eventOf?, h, Except.toOption]

theorem eventOf?_of_error {text : String} {e : Frame.DecodeError}
    (h : Frame.decode text = .error e) : eventOf? text = none := by
  simp [eventOf?, h, Except.toOption]

namespace Client

/-- The text that an input brings, if it comes from the connection at hand. -/
def hears (s : Client) : Input → List String
  | .frame call text => if s.link = .open call then [text] else []
  | _ => []

/-- The texts that a run receives from its connections, in order. -/
def received (c : Config) (s : Client) (inputs : List (Moment × Input)) : List String :=
  collect (fun _ s i ↦ s.hears i) c s inputs

theorem published_heardEffect (text : String) :
    published [heardEffect text] = (eventOf? text).toList := by
  cases h : Frame.decode text with
  | ok event => simp [published, heardEffect, h, eventOf?_of_ok h]
  | error e => simp [published, heardEffect, h, eventOf?_of_error h]

section Steps

variable {c : Config} {m : Moment} {s s' : Client} {i : Input} {effects : List Effect}

theorem hears_of_ignored (h : Settled c s) (hi : s.stopped = true ∨ s.Ignores m i) :
    s.hears i = [] := by
  cases i with
  | frame call text =>
      have hlink : s.link ≠ .open call := by
        rcases hi with hstopped | hignored
        · simp [(h.closing (h.stopped hstopped)).1]
        · exact hignored
      simp [hears, hlink]
  | _ => rfl

theorem published_reaction (h : Settled c s) (r : Reaction c m s i s' effects) :
    published effects = (s.hears i).filterMap eventOf? := by
  have hq := quiet_event?
  cases r with
  | ignored hi => simp [hears_of_ignored h hi, published]
  | heard hlink =>
      rw [published_heardEffect, hears, if_pos hlink]
      cases hevent : eventOf? _ <;> simp [hevent]
  | failed hfails =>
      rw [published, hq.filterMap_faultEffects, filterMap_event?_release]
      cases hfails <;> rfl
  | noted w => cases w <;> rfl
  | told w => cases w <;> rfl
  | untold w =>
      rw [published, List.filterMap_append, hq.filterMap_faultEffects, filterMap_event?_release]
      cases w <;> rfl
  | opened => exact filterMap_sent (fun _ ↦ rfl) _
  | broken =>
      rw [published, List.filterMap_append, hq.filterMap_faultEffects, filterMap_event?_release]
      exact congrArg (· ++ []) (filterMap_sent (fun _ ↦ rfl) _)
  | _ =>
      simp only [published, hears, List.filterMap_append, List.filterMap_cons,
        List.filterMap_nil, List.append_nil, Effect.event?, hq.filterMap_become,
        hq.filterMap_lossEffects, filterMap_event?_release]

theorem published_step (h : Settled c s) (m : Moment) (i : Input) :
    published (s.step c m i).2 = (s.hears i).filterMap eventOf? :=
  published_reaction h (reaction_step h m i)

/-- Whatever a text is, it leaves the client as it was. -/
theorem step_frame (h : Settled c s) {call : Nat} (hlink : s.link = .open call) (m : Moment)
    (text : String) : s.step c m (.frame call text) = (s, [heardEffect text]) := by
  have hlive : s.stopped = false := h.stopped_eq_false (by simp [hlink])
  simp only [step, hlive, Turn.take, Turn.ofClient, hlink, if_true, Turn.frame, Turn.emit,
    heardEffect]
  cases Frame.decode text <;> simp

theorem published_run (h : Settled c s) (inputs : List (Moment × Input)) :
    published (s.run c inputs).2 = (received c s inputs).filterMap eventOf? := by
  rw [published, filterMap_run, received, filterMap_collect]
  exact collect_congr h (fun m s i hs ↦ published_step hs m i) inputs

/-- Texts that come one after the other are all received, whatever comes after them. -/
theorem received_frames (h : Settled c s) {call : Nat} (hlink : s.link = .open call)
    (texts : List (Moment × String)) (rest : List (Moment × Input)) :
    received c s (texts.map (fun t ↦ (t.1, .frame call t.2)) ++ rest) =
      texts.map Prod.snd ++ received c s rest := by
  induction texts with
  | nil => rfl
  | cons t texts ih =>
      have hhears : s.hears (.frame call t.2) = [t.2] := by simp [hears, hlink]
      simp only [received] at ih
      rw [received, List.map_cons, List.cons_append, collect_cons, step_frame h hlink, ih, hhears]
      rfl

end Steps

/-- The events that a run publishes are the texts that it receives, decoded, in order and each once;
texts that come in a row are received before what ends the connection. A text that is no event
leaves the client as it was, and the only thing to be seen of it is one warning that says why. -/
theorem published_eq_received (c : Config) (inputs : List (Moment × Input)) :
    published (history c inputs) = (received c (initial c) inputs).filterMap eventOf? ∧
      ∀ call, (after c inputs).link = .open call →
        (∀ (texts : List (Moment × String)) rest,
          received c (initial c)
              (inputs ++ texts.map (fun t ↦ (t.1, .frame call t.2)) ++ rest) =
            received c (initial c) inputs ++ texts.map Prod.snd ++
              received c (after c inputs) rest) ∧
        ∀ m text e, Frame.decode text = .error e →
          (after c inputs).step c m (.frame call text) =
              (after c inputs, [.report (Report.malformed e)]) ∧
            (Report.malformed e).level = .warn ∧
            (Report.malformed e).values =
              [("error", .shown e.message), ("message", .shown "dropping malformed frame")] := by
  refine ⟨published_run (.initial c) inputs, fun call hlink ↦ ⟨fun texts rest ↦ ?_, ?_⟩⟩
  · have hframes := received_frames (settled_after c inputs) hlink texts rest
    rw [received, List.append_assoc, collect_append, List.append_assoc]
    exact congrArg _ hframes
  · intro m text e herror
    have hstep := step_frame (settled_after c inputs) hlink m text
    have heffect : heardEffect text = .report (Report.malformed e) := by
      simp [heardEffect, herror]
    rw [heffect] at hstep
    exact ⟨hstep, rfl, Telemetry.Entry.values_of _ _ _⟩

def listening : List (Moment × Input) :=
  [(.clear 0, .command (.connect none)), (.clear 0, .begin), (.clear 0, .opened 1)]

theorem listening_drops_malformed :
    ∃ e, Frame.decode "[" = .error e ∧
      (after .default listening).step .default (.clear 0) (.frame 1 "[") =
        (after .default listening, [.report (Report.malformed e)]) := by
  have hlink : (after .default listening).link = .open 1 := by decide
  obtain ⟨e, herror⟩ : ∃ e, Frame.decode "[" = .error e := ⟨_, rfl⟩
  have hdropped := ((published_eq_received .default listening).2 1 hlink).2 (.clear 0) "[" e herror
  exact ⟨e, herror, hdropped.1⟩

end Client

end EventFeed.Connection
