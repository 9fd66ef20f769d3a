import EventFeed.Proofs.Connection.Rest
import Mathlib.Data.List.Chain

/-!
# The walk of the states

The changes of state that a client announces are a walk from `disconnected`. `Shift` says what one
input can add to it. The main result is `states_walk`: which steps the walk is made of, and why it
takes those that end a connection.
-/

namespace EventFeed.Connection

namespace State

inductive Edge : State → State → Prop
  | dialled : Edge .disconnected .connecting
  | opened : Edge .connecting .connected
  | refused : Edge .connecting .error
  | abandoned : Edge .connecting .disconnected
  | failed : Edge .connected .error
  | closed : Edge .connected .disconnected
  | settled : Edge .error .disconnected

end State

/-- The change of state that an effect is. -/
@[simp] def Effect.state? : Effect → Option State
  | .become state => some state
  | .open .. | .send .. | .close _ | .publish _ | .answer _ | .report _ => none

def transitions (effects : List Effect) : List State := effects.filterMap Effect.state?

@[simp] theorem transitions_nil : transitions [] = [] := rfl

@[simp] theorem transitions_cons (e : Effect) (effects : List Effect) :
    transitions (e :: effects) = e.state?.toList ++ transitions effects := by
  simp only [transitions, List.filterMap_cons]
  cases e.state? <;> rfl

@[simp] theorem transitions_append (first rest : List Effect) :
    transitions (first ++ rest) = transitions first ++ transitions rest :=
  List.filterMap_append

@[simp] theorem transitions_release (l : Link) : transitions l.release = [] := by
  cases l <;> rfl

@[simp] theorem transitions_sent (call : Nat) (frames : List Frame.Control) :
    transitions (frames.map (.send call)) = [] := by simp [transitions]

namespace Client

@[simp] theorem transitions_lossEffects (c : Config) (s : Client) :
    transitions (s.lossEffects c) = [.disconnected] := by
  by_cases h : c.backoff.allows s.attempts = true <;> simp [lossEffects, h]

@[simp] theorem transitions_faultEffects (c : Config) (f : Fault) (s : Client) :
    transitions (s.faultEffects c f) = [.error, .disconnected] := by
  simp [faultEffects]

/-- What one input can do to the state of a client. -/
inductive Shift (s : Client) (i : Input) : List State → Prop
  | stay : Shift s i []
  | dialled (h : s.state = .disconnected) : Shift s i [.connecting]
  | opened (h : s.state = .connecting) : Shift s i [.connected]
  | broken (h : s.state = .connecting) : Shift s i [.connected, .error, .disconnected]
  | failed (h : s.state = .connecting ∨ s.state = .connected) : Shift s i [.error, .disconnected]
  | left (h : s.state = .connecting ∨ s.state = .connected)
      (hi : i = .command .disconnect ∨ i = .command .stop) : Shift s i [.disconnected]
  | closed {call : Nat} (h : s.state = .connected) (hlink : s.link = .open call)
      (hi : i = .closed call) : Shift s i [.disconnected]

section Step

variable {c : Config} {m : Moment} {s s' : Client} {i : Input} {effects : List Effect}

theorem transitions_become_of (s : Client) (state : State) :
    transitions (s.become state) = if s.state = state then [] else [state] := by
  by_cases h : s.state = state <;> simp [become, h]

theorem state_cases (h : Settled c s) :
    s.state = .disconnected ∨ s.state = .connecting ∨ s.state = .connected := by
  rcases h.phase with ⟨-, h⟩ | ⟨-, h⟩ | ⟨-, h⟩ <;> simp [h]

theorem shift_hangUp (h : Settled c s)
    (hi : i = .command .disconnect ∨ i = .command .stop) :
    Shift s i (transitions (s.link.release ++ s.become .disconnected)) := by
  rw [transitions_append, transitions_release, transitions_become_of, List.nil_append]
  rcases state_cases h with hstate | hstate
  · simpa [hstate] using Shift.stay
  · have hne : s.state ≠ .disconnected := by rcases hstate with hs | hs <;> simp [hs]
    rw [if_neg hne]
    exact .left hstate hi

theorem shift_dial (h : Settled c s) (hlink : s.link.isOpen = false) :
    Shift s i (transitions (s.become .connecting)) := by
  have hne : s.state ≠ .connected := by simp [h.state_eq_connected_iff, hlink]
  rw [transitions_become_of]
  rcases state_cases h with hstate | hstate | hstate
  · simpa [hstate] using Shift.dialled hstate
  · simpa [hstate] using Shift.stay
  · exact absurd hstate hne

theorem shift_reaction (h : Settled c s) (r : Reaction c m s i s' effects) :
    Shift s i (transitions effects) := by
  cases r with
  | ignored => exact .stay
  | asked => exact .stay
  | noted => exact .stay
  | told => exact .stay
  | pinged => exact .stay
  | called => exact .stay
  | @heard call text =>
      rcases heardEffect_cases text with ⟨event, he⟩ | ⟨entry, he⟩
      · simpa [he] using Shift.stay
      · simpa [he] using Shift.stay
  | dialled hlink => exact shift_dial h hlink
  | retried hlink => exact .dialled (h.state_eq hlink)
  | hungUp => exact shift_hangUp h (Or.inl rfl)
  | stopped => exact shift_hangUp h (Or.inr rfl)
  | opened hlink => simpa using Shift.opened (h.state_eq hlink)
  | broken hlink => simpa using Shift.broken (h.state_eq hlink)
  | untold w hlink => simpa using Shift.failed (Or.inr (h.state_eq hlink))
  | failed hfails =>
      have hstate : s.state = .connecting ∨ s.state = .connected :=
        (state_cases h).resolve_left fun hs ↦
          hfails.link_ne_idle (Link.state_eq_disconnected_iff.1 (h.state.symm.trans hs))
      simpa using Shift.failed hstate
  | closed hlink => simpa using Shift.closed (h.state_eq hlink) hlink rfl

/-- The state after an input is the last one that was announced. -/
theorem state_reaction (r : Reaction c m s i s' effects) :
    s'.state = (transitions effects).getLastD s.state := by
  have hbecome : ∀ state, state = (transitions (s.become state)).getLastD s.state := by
    intro state
    rw [transitions_become_of]
    by_cases hs : s.state = state <;> simp [hs]
  cases r with
  | dialled => exact hbecome .connecting
  | hungUp => simpa [hangUp] using hbecome .disconnected
  | stopped => simpa [hangUp] using hbecome .disconnected
  | @heard call text =>
      rcases heardEffect_cases text with ⟨event, he⟩ | ⟨entry, he⟩ <;> simp [he]
  | _ => simp [dial, accept]

theorem Shift.isChain {states : List State} (hs : Shift s i states) :
    List.IsChain State.Edge (s.state :: states) := by
  cases hs with
  | stay => exact .singleton _
  | dialled h =>
      rw [h]
      exact .cons_cons .dialled (.singleton _)
  | opened h =>
      rw [h]
      exact .cons_cons .opened (.singleton _)
  | broken h =>
      rw [h]
      exact .cons_cons .opened (.cons_cons .failed (.cons_cons .settled (.singleton _)))
  | failed h =>
      rcases h with h | h
      · rw [h]
        exact .cons_cons .refused (.cons_cons .settled (.singleton _))
      · rw [h]
        exact .cons_cons .failed (.cons_cons .settled (.singleton _))
  | left h =>
      rcases h with h | h
      · rw [h]
        exact .cons_cons .abandoned (.singleton _)
      · rw [h]
        exact .cons_cons .closed (.singleton _)
  | closed h =>
      rw [h]
      exact .cons_cons .closed (.singleton _)

/-- An error is over within the step: it is not the last change, and only one can follow it. -/
theorem disconnected_of_error (h : Settled c s) (r : Reaction c m s i s' effects)
    {before rest : List State} (herror : transitions effects = before ++ .error :: rest) :
    ∃ more, rest = .disconnected :: more := by
  cases rest with
  | nil =>
      have hlast : s'.state = .error := by
        rw [state_reaction r, herror]
        simp
      exact absurd hlast (h.reaction r).state_ne_error
  | cons next more =>
      have hchain := (shift_reaction h r).isChain
      rw [herror, ← List.cons_append, List.isChain_append_cons_cons] at hchain
      cases hchain.2.1
      exact ⟨more, rfl⟩

/-- Without an error a client becomes disconnected only on request, or when the peer closes. -/
theorem Shift.reason_of_disconnected {states : List State} {a : State} (hs : Shift s i states)
    (ha : a ≠ .error) (hedge : [a, .disconnected] <:+: s.state :: states) :
    i = .command .disconnect ∨ i = .command .stop ∨
      a = .connected ∧ ∃ call, s.link = .open call ∧ i = .closed call := by
  cases hs with
  | left h hi => exact hi.imp_right Or.inl
  | closed h hlink hi =>
      have haState : a = s.state := by simpa [List.infix_cons_iff] using hedge
      exact Or.inr (Or.inr ⟨haState.trans h, _, hlink, hi⟩)
  | failed h => simp [List.infix_cons_iff, ha] at hedge
  | broken h => simp [List.infix_cons_iff, ha] at hedge
  | stay => simp [List.infix_cons_iff] at hedge
  | dialled h => simp [List.infix_cons_iff] at hedge
  | opened h => simp [List.infix_cons_iff] at hedge

theorem transitions_of_fails (h : Settled c s) {f : Fault} (hf : s.Fails c m i f) :
    transitions (s.step c m i).2 = [.error, .disconnected] := by
  have hlive : s.stopped = false := h.stopped_eq_false hf.link_ne_idle
  have r := reaction_step h m i
  generalize (s.step c m i).1 = s', (s.step c m i).2 = effects at r ⊢
  cases r with
  | ignored hi => exact absurd (hi.resolve_left (by simp [hlive])) hf.not_ignores
  | failed => simp
  | pinged hlink hdue hsent =>
      cases hf with
      | unpinged _ _ hrefused => simp [hsent] at hrefused
  | _ => cases hf

end Step

section Runs

variable (c : Config)

theorem getLastD_append {α : Type} (a : α) (first rest : List α) :
    (first ++ rest).getLastD a = rest.getLastD (first.getLastD a) := by
  induction first generalizing a with
  | nil => rfl
  | cons b first ih => simpa only [List.cons_append, List.getLastD_cons] using ih b

theorem isChain_cons_append {α : Type} {R : α → α → Prop} {a : α} {first rest : List α}
    (hfirst : List.IsChain R (a :: first)) (hrest : List.IsChain R (first.getLastD a :: rest)) :
    List.IsChain R (a :: (first ++ rest)) := by
  induction first generalizing a with
  | nil => exact hrest
  | cons b first ih =>
      rw [List.isChain_cons_cons] at hfirst
      rw [List.getLastD_cons] at hrest
      rw [List.cons_append, List.isChain_cons_cons]
      exact ⟨hfirst.1, ih hfirst.2 hrest⟩

theorem walk_after (inputs : List (Moment × Input)) :
    List.IsChain State.Edge (.disconnected :: transitions (history c inputs)) ∧
      (after c inputs).state = (transitions (history c inputs)).getLastD .disconnected := by
  refine after_induction c
    (motive := fun _ s effects ↦
      List.IsChain State.Edge (.disconnected :: transitions effects) ∧
        s.state = (transitions effects).getLastD .disconnected) ?_ ?_ inputs
  · exact ⟨.singleton _, rfl⟩
  · intro inputs m i s' effects h r _ ih
    have hstep := (shift_reaction h r).isChain
    rw [ih.2] at hstep
    rw [transitions_append]
    refine ⟨isChain_cons_append ih.1 hstep, ?_⟩
    rw [state_reaction r, getLastD_append, ih.2]

def asking : List (Moment × Input) := [(.clear 0, .command (.connect none))]

def calling : List (Moment × Input) := asking ++ [(.clear 0, .begin)]

def joining : List (Moment × Input) := calling ++ [(.clear 0, .opened 1)]

theorem transitions_history_fails (inputs : List (Moment × Input)) {m : Moment} {i : Input}
    {f : Fault} (hf : (after c inputs).Fails c m i f) :
    transitions (history c (inputs ++ [(m, i)])) =
      transitions (history c inputs) ++ [.error, .disconnected] := by
  rw [history_concat, transitions_append, transitions_of_fails (settled_after c inputs) hf]

/-- Each edge is taken by some client, whatever its configuration. -/
theorem taken_of_edge {a b : State} (h : State.Edge a b) :
    ∃ inputs, [a, b] <:+: .disconnected :: transitions (history c inputs) := by
  let f : Fault := .protocol ""
  have hrefused : transitions (history c (calling ++ [(.clear 0, .refused 1 f)])) =
      [.connecting, .error, .disconnected] := transitions_history_fails c calling (.refused rfl)
  have hfailed : transitions (history c (joining ++ [(.clear 0, .failed 1 f)])) =
      [.connecting, .connected, .error, .disconnected] :=
    transitions_history_fails c joining (.failed rfl)
  cases h with
  | dialled => exact ⟨asking, [], [], rfl⟩
  | opened => exact ⟨joining, [.disconnected], [], rfl⟩
  | abandoned =>
      exact ⟨asking ++ [(.clear 0, .command .disconnect)], [.disconnected], [], rfl⟩
  | closed =>
      exact ⟨joining ++ [(.clear 0, .command .disconnect)], [.disconnected, .connecting], [], rfl⟩
  | refused => exact ⟨_, [.disconnected], [.disconnected], congrArg _ hrefused.symm⟩
  | failed => exact ⟨_, [.disconnected, .connecting], [.disconnected], congrArg _ hfailed.symm⟩
  | settled =>
      exact ⟨_, [.disconnected, .connecting, .connected], [], congrArg _ hfailed.symm⟩

/-- The states of a client, from `disconnected`, are a walk along exactly the edges, and its state
is the last of them. An error is over within its step, and without one a client becomes
disconnected only on request or, when it is connected, because the peer closes. -/
theorem states_walk :
    (∀ a b, State.Edge a b ↔
      ∃ inputs, [a, b] <:+: .disconnected :: transitions (history c inputs)) ∧
    ∀ inputs,
      (after c inputs).state = (transitions (history c inputs)).getLastD .disconnected ∧
      ∀ m i,
        (∀ before rest,
          transitions ((after c inputs).step c m i).2 = before ++ .error :: rest →
            ∃ more, rest = .disconnected :: more) ∧
        ∀ a, a ≠ .error →
          [a, .disconnected] <:+:
              (after c inputs).state :: transitions ((after c inputs).step c m i).2 →
            i = .command .disconnect ∨ i = .command .stop ∨
              a = .connected ∧ ∃ call, (after c inputs).link = .open call ∧ i = .closed call := by
  refine ⟨fun a b ↦ ⟨taken_of_edge c, ?_⟩, fun inputs ↦ ⟨(walk_after c inputs).2, fun m i ↦ ?_⟩⟩
  · rintro ⟨inputs, before, rest, heq⟩
    have hchain := (walk_after c inputs).1
    rw [← heq, List.append_assoc, List.cons_append, List.cons_append, List.nil_append,
      List.isChain_append_cons_cons] at hchain
    exact hchain.2.1
  · have h := settled_after c inputs
    have r := reaction_step h m i
    exact ⟨fun before rest ↦ disconnected_of_error h r,
      fun a ha hedge ↦ (shift_reaction h r).reason_of_disconnected ha hedge⟩

/-- A connection that fails, and one that its peer closes. -/
theorem states_walk_of_joining :
    transitions
        ((after .default joining).step .default (.clear 0) (.failed 1 (.sendFailed "gone"))).2 =
          [] ++ .error :: [.disconnected] ∧
      (∃ more, [State.disconnected] = .disconnected :: more) ∧
      State.connected ≠ .error ∧
      [State.connected, .disconnected] <:+: (after .default joining).state ::
        transitions ((after .default joining).step .default (.clear 0) (.closed 1)).2 ∧
      ∃ call, (after .default joining).link = .open call ∧ Input.closed 1 = .closed call := by
  obtain ⟨-, hwalk⟩ := states_walk .default
  obtain ⟨-, hstep⟩ := hwalk joining
  have hfailed : transitions
      ((after .default joining).step .default (.clear 0) (.failed 1 (.sendFailed "gone"))).2 =
        [] ++ .error :: [.disconnected] := by decide
  have hclosed : [State.connected, .disconnected] <:+: (after .default joining).state ::
      transitions ((after .default joining).step .default (.clear 0) (.closed 1)).2 := by decide
  refine ⟨hfailed, (hstep (.clear 0) _).1 _ _ hfailed, by decide, hclosed, ?_⟩
  rcases (hstep (.clear 0) _).2 _ (by decide) hclosed with h | h | ⟨-, h⟩
  · cases h
  · cases h
  · exact h

end Runs

end Client

end EventFeed.Connection
