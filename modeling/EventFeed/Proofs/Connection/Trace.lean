import EventFeed.Proofs.Connection.Rest

/-!
# Traces of a run

A run is often looked at through what each of its inputs contributes, judged by the client that
takes it. `collect` puts these contributions together in order. Two ways to judge inputs that agree
on settled clients have the same traces, which is how a property of all effects of a run is reduced
to a property of one step. `Quiet` views show of a step only what is said on the transport or to
those who ask; `opens` is the one that shows the calls. `Signed` effects are reports of nobody else.
-/

namespace EventFeed.Connection

namespace Client

variable {α β : Type}

/-- What the inputs of a run contribute, in order. -/
def collect (f : Moment → Client → Input → List α) (c : Config) (s : Client) :
    List (Moment × Input) → List α
  | [] => []
  | (m, i) :: inputs => f m s i ++ collect f c (s.step c m i).1 inputs

variable (f g : Moment → Client → Input → List α) (c : Config)

@[simp] theorem collect_nil (s : Client) : collect f c s [] = [] := rfl

@[simp] theorem collect_cons (s : Client) (m : Moment) (i : Input)
    (inputs : List (Moment × Input)) :
    collect f c s ((m, i) :: inputs) = f m s i ++ collect f c (s.step c m i).1 inputs := rfl

theorem collect_append (s : Client) (first rest : List (Moment × Input)) :
    collect f c s (first ++ rest) = collect f c s first ++ collect f c (s.run c first).1 rest := by
  induction first generalizing s with
  | nil => rfl
  | cons x first ih =>
      obtain ⟨m, i⟩ := x
      rw [List.cons_append, collect_cons, collect_cons, ih, run_cons, List.append_assoc]

theorem collect_concat (inputs : List (Moment × Input)) (m : Moment) (i : Input) :
    collect f c (initial c) (inputs ++ [(m, i)]) =
      collect f c (initial c) inputs ++ f m (after c inputs) i := by
  rw [collect_append, collect_cons, collect_nil, List.append_nil, after]

theorem filterMap_collect (p : α → Option β) (s : Client) (inputs : List (Moment × Input)) :
    (collect f c s inputs).filterMap p =
      collect (fun m s i ↦ (f m s i).filterMap p) c s inputs := by
  induction inputs generalizing s with
  | nil => rfl
  | cons x inputs ih =>
      obtain ⟨m, i⟩ := x
      rw [collect_cons, List.filterMap_append, ih, collect_cons]

theorem filterMap_run (p : Effect → Option β) (s : Client) (inputs : List (Moment × Input)) :
    (s.run c inputs).2.filterMap p =
      collect (fun m s i ↦ (s.step c m i).2.filterMap p) c s inputs := by
  induction inputs generalizing s with
  | nil => rfl
  | cons x inputs ih =>
      obtain ⟨m, i⟩ := x
      rw [run_cons, List.filterMap_append, ih, collect_cons]

variable {f g c}

/-- It is enough that two judgements agree on settled clients. -/
theorem collect_congr {s : Client} (h : Settled c s)
    (hfg : ∀ m s i, Settled c s → f m s i = g m s i) (inputs : List (Moment × Input)) :
    collect f c s inputs = collect g c s inputs := by
  induction inputs generalizing s with
  | nil => rfl
  | cons x inputs ih =>
      obtain ⟨m, i⟩ := x
      rw [collect_cons, collect_cons, hfg m s i h, ih (h.step m i)]

end Client

/-- A view of effects in which neither changes of state nor reports are seen. -/
structure Quiet {β : Type} (p : Effect → Option β) : Prop where
  become : ∀ state, p (.become state) = none
  report : ∀ entry, p (.report entry) = none

namespace Quiet

variable {β : Type} {p : Effect → Option β} (hp : Quiet p)
include hp

theorem filterMap_become (s : Client) (state : State) : (s.become state).filterMap p = [] := by
  by_cases h : s.state = state <;> simp [Client.become, h, hp.become]

theorem filterMap_lossEffects (c : Config) (s : Client) : (s.lossEffects c).filterMap p = [] := by
  by_cases h : c.backoff.allows s.attempts = true <;>
    simp [Client.lossEffects, h, hp.become, hp.report]

theorem filterMap_faultEffects (c : Config) (f : Fault) (s : Client) :
    (s.faultEffects c f).filterMap p = s.link.release.filterMap p := by
  simp [Client.faultEffects, hp.become, hp.report, hp.filterMap_lossEffects]

end Quiet

theorem filterMap_sent {β : Type} {p : Effect → Option β} {call : Nat}
    (hp : ∀ frame, p (.send call frame) = none) (frames : List Frame.Control) :
    (frames.map (.send call)).filterMap p = [] :=
  List.filterMap_eq_nil_iff.2 (by simp [hp])

@[simp] def Effect.call? : Effect → Option (Nat × String)
  | .open call url => some (call, url)
  | .send .. | .close _ | .become _ | .publish _ | .answer _ | .report _ => none

def opens (effects : List Effect) : List (Nat × String) := effects.filterMap Effect.call?

theorem opens_cons (e : Effect) (effects : List Effect) :
    opens (e :: effects) = e.call?.toList ++ opens effects := by
  simp only [opens, List.filterMap_cons]
  cases e.call? <;> rfl

theorem opens_append (first rest : List Effect) :
    opens (first ++ rest) = opens first ++ opens rest :=
  List.filterMap_append

theorem quiet_call? : Quiet Effect.call? := ⟨fun _ ↦ rfl, fun _ ↦ rfl⟩

theorem filterMap_call?_release (l : Link) : l.release.filterMap Effect.call? = [] := by
  cases l <;> rfl

namespace Client

variable {c : Config} {m : Moment} {s s' : Client} {i : Input} {effects : List Effect}

/-- The only input that makes a call is the one for an attempt that waits to make it. -/
theorem opens_reaction (r : Reaction c m s i s' effects) :
    opens effects = [] ∨
      i = .begin ∧ ∃ url, s.link = .waiting url ∧ opens effects = [(s.calls + 1, url)] := by
  have hq := quiet_call?
  cases r with
  | called hlink => exact Or.inr ⟨rfl, _, hlink, rfl⟩
  | @heard call text =>
      rcases heardEffect_cases text with ⟨event, he⟩ | ⟨entry, he⟩ <;> simp [opens, he]
  | opened =>
      exact Or.inl (filterMap_sent (fun _ ↦ rfl) _)
  | broken =>
      refine Or.inl ?_
      rw [opens, List.filterMap_append, hq.filterMap_faultEffects]
      exact congrArg (· ++ []) (filterMap_sent (fun _ ↦ rfl) _)
  | _ =>
      refine Or.inl ?_
      simp only [opens, List.filterMap_append, List.filterMap_cons, List.filterMap_nil,
        List.append_nil, Effect.call?, hq.filterMap_become, hq.filterMap_lossEffects,
        hq.filterMap_faultEffects, filterMap_call?_release]

end Client

/-- Every report among the effects names the client as the one who makes it. -/
def Signed (effects : List Effect) : Prop :=
  ∀ entry, .report entry ∈ effects → entry.target = "casefeed_client::connection"

theorem Signed.append {first rest : List Effect} (hfirst : Signed first) (hrest : Signed rest) :
    Signed (first ++ rest) := by
  intro entry hentry
  rcases List.mem_append.1 hentry with hentry | hentry
  · exact hfirst entry hentry
  · exact hrest entry hentry

theorem signed_sent (call : Nat) (frames : List Frame.Control) :
    Signed (frames.map (.send call)) := by
  intro entry hentry
  simp at hentry

theorem signed_release (l : Link) : Signed l.release := by
  intro entry hentry
  cases l <;> simp [Link.release] at hentry

theorem signed_heardEffect (text : String) : Signed [Client.heardEffect text] := by
  intro entry hentry
  cases hdecode : Frame.decode text with
  | ok event => simp [Client.heardEffect, hdecode] at hentry
  | error e =>
      obtain rfl : entry = Report.malformed e := by
        simpa [Client.heardEffect, hdecode] using hentry
      rfl

namespace Client

variable {c : Config} {m : Moment} {s s' : Client} {i : Input} {effects : List Effect}

theorem signed_become (s : Client) (state : State) : Signed (s.become state) := by
  intro entry hentry
  by_cases hstate : s.state = state <;> simp [become, hstate] at hentry

theorem signed_lossEffects (c : Config) (s : Client) : Signed (s.lossEffects c) := by
  intro entry hentry
  by_cases hallows : c.backoff.allows s.attempts = true
  · simp [lossEffects, hallows] at hentry
  · obtain rfl : entry = Report.exhausted s.attempts := by
      simpa [lossEffects, hallows] using hentry
    rfl

theorem signed_faultEffects (c : Config) (f : Fault) (s : Client) :
    Signed (s.faultEffects c f) := by
  have hfault : Signed [.report (Report.fault f), .become .error] := by
    intro entry hentry
    obtain rfl : entry = Report.fault f := by simpa using hentry
    rfl
  exact hfault.append ((signed_release s.link).append (signed_lossEffects c s))

theorem signed_reaction (r : Reaction c m s i s' effects) : Signed effects := by
  have hconnected : Signed [.become .connected] := by simp [Signed]
  cases r with
  | hungUp => exact (signed_release _).append (signed_become _ _)
  | stopped => exact (signed_release _).append (signed_become _ _)
  | dialled => exact signed_become _ _
  | failed => exact signed_faultEffects _ _ _
  | closed => exact signed_lossEffects _ _
  | heard => exact signed_heardEffect _
  | opened => exact hconnected.append (signed_sent _ _)
  | broken => exact (hconnected.append (signed_sent _ _)).append (signed_faultEffects _ _ _)
  | untold w =>
      refine (signed_faultEffects _ _ _).append ?_
      intro entry hentry
      cases List.mem_singleton.1 hentry
      cases w <;> rfl
  | _ => simp [Signed]

end Client

end EventFeed.Connection
