import EventFeed.Proofs.Connection.Reception
import EventFeed.Proofs.Connection.Tenure
import EventFeed.Proofs.Broadcast
import EventFeed.Scenario.Scene

/-!
# What a scene makes of effects

A scene carries out the effects of its client one after the other. Each part of it shows only some
of them: the transport the calls and the closes, the broadcast of events what is published, and the
log the reports.
-/

namespace EventFeed.Scenario

open Connection

theorem opens_open (t : Transport) (now call : Nat) (url : String) :
    (t.open now call url).opens = (now, url) :: t.opens := by
  rw [Transport.open]
  cases t.nextOutcome <;> rfl

namespace Scene

def moment (s : Scene) : Moment := ⟨s.now, fun _ ↦ s.transport.refusal⟩

/-- An input that is taken at a moment of its own, when the connection may answer otherwise than the
script says. -/
def takeAt (s : Scene) (m : Moment) (i : Input) : Scene :=
  (s.client.step s.config m i).2.foldl perform { s with client := (s.client.step s.config m i).1 }

theorem take_eq (s : Scene) (i : Input) : s.take i = s.takeAt s.moment i := rfl

section Perform

variable (s : Scene) (e : Effect) (effects : List Effect)

@[simp] theorem client_perform : (s.perform e).client = s.client := by cases e <;> rfl

@[simp] theorem config_perform : (s.perform e).config = s.config := by cases e <;> rfl

@[simp] theorem now_perform : (s.perform e).now = s.now := by cases e <;> rfl

theorem inbox_perform (h : e.call? = none) :
    (s.perform e).transport.inbox = s.transport.inbox := by
  cases e with
  | «open» => cases h
  | _ => rfl

theorem opens_perform :
    (s.perform e).transport.opens.map Prod.fst =
      (e.call?.toList.map fun _ ↦ s.now) ++ s.transport.opens.map Prod.fst := by
  cases e with
  | «open» call url => exact congrArg (List.map Prod.fst) (opens_open _ _ _ _)
  | _ => rfl

theorem closes_perform :
    (s.perform e).transport.closes = s.transport.closes + e.closed?.toList.length := by
  cases e with
  | «open» call url =>
      simp only [perform, Transport.open, Transport.deliver]
      cases s.transport.nextOutcome <;> rfl
  | _ => rfl

@[simp] theorem client_foldl : (effects.foldl perform s).client = s.client := by
  induction effects generalizing s with
  | nil => rfl
  | cons e effects ih => rw [List.foldl_cons, ih, client_perform]

@[simp] theorem config_foldl : (effects.foldl perform s).config = s.config := by
  induction effects generalizing s with
  | nil => rfl
  | cons e effects ih => rw [List.foldl_cons, ih, config_perform]

@[simp] theorem now_foldl : (effects.foldl perform s).now = s.now := by
  induction effects generalizing s with
  | nil => rfl
  | cons e effects ih => rw [List.foldl_cons, ih, now_perform]

/-- The calls of the effects, the newest first. -/
theorem opens_foldl :
    (effects.foldl perform s).transport.opens.map Prod.fst =
      ((opens effects).map fun _ ↦ s.now).reverse ++ s.transport.opens.map Prod.fst := by
  induction effects generalizing s with
  | nil => rfl
  | cons e effects ih =>
      have hone : (e.call?.toList.map fun _ ↦ s.now).reverse =
          e.call?.toList.map fun _ ↦ s.now := by
        cases e.call? <;> rfl
      rw [List.foldl_cons, ih, opens_perform, now_perform, opens_cons, List.map_append,
        List.reverse_append, hone, List.append_assoc]

theorem closes_foldl :
    (effects.foldl perform s).transport.closes = s.transport.closes + (closed effects).length := by
  induction effects generalizing s with
  | nil => rfl
  | cons e effects ih =>
      rw [List.foldl_cons, ih, closes_perform, closed_cons, List.length_append, Nat.add_assoc]

theorem inbox_foldl (h : opens effects = []) :
    (effects.foldl perform s).transport.inbox = s.transport.inbox := by
  induction effects generalizing s with
  | nil => rfl
  | cons e effects ih =>
      rw [opens_cons, List.append_eq_nil_iff] at h
      rw [List.foldl_cons, ih _ h.2, inbox_perform s e (Option.toList_eq_nil_iff.1 h.1)]

def liveAfter (live : Option Nat) (closed : List Nat) : Option Nat :=
  closed.foldl (fun live call ↦ if live = some call then none else live) live

theorem live_perform (h : e.call? = none) :
    (s.perform e).transport.live = liveAfter s.transport.live e.closed?.toList := by
  cases e with
  | «open» => cases h
  | _ => rfl

theorem live_foldl (h : opens effects = []) :
    (effects.foldl perform s).transport.live = liveAfter s.transport.live (closed effects) := by
  induction effects generalizing s with
  | nil => rfl
  | cons e effects ih =>
      rw [opens_cons, List.append_eq_nil_iff] at h
      rw [List.foldl_cons, ih _ h.2, closed_cons, liveAfter, liveAfter, List.foldl_append,
        live_perform s e (Option.toList_eq_nil_iff.1 h.1)]
      rfl

theorem events_foldl {all : List Event} (h : s.events.Holds all) :
    (effects.foldl perform s).events.Holds (all ++ published effects) := by
  induction effects generalizing s all with
  | nil => rwa [published, List.filterMap_nil, List.append_nil]
  | cons e effects ih =>
      cases e with
      | publish event =>
          have hsent := ih (s.perform (.publish event)) (h.send event)
          rwa [List.append_assoc] at hsent
      | _ => exact ih _ h

/-- Entries that no report makes are found in the log as before. -/
theorem filter_log_foldl {p : Telemetry.Entry → Bool}
    (h : ∀ entry, .report entry ∈ effects → p entry = false) :
    (effects.foldl perform s).log.filter p = s.log.filter p := by
  induction effects generalizing s with
  | nil => rfl
  | cons e effects ih =>
      obtain ⟨he, hrest⟩ : (∀ entry, e = .report entry → p entry = false) ∧
          ∀ entry, .report entry ∈ effects → p entry = false := by
        simp only [List.mem_cons] at h
        exact ⟨fun entry hentry ↦ h entry (Or.inl hentry.symm),
          fun entry hentry ↦ h entry (Or.inr hentry)⟩
      rw [List.foldl_cons, ih _ hrest]
      cases e with
      | report entry => simp [perform, he entry rfl]
      | _ => rfl

end Perform

section Take

variable (s : Scene) (m : Moment) (i : Input)

@[simp] theorem client_takeAt : (s.takeAt m i).client = (s.client.step s.config m i).1 := by
  rw [takeAt, client_foldl]

@[simp] theorem config_takeAt : (s.takeAt m i).config = s.config := by
  rw [takeAt, config_foldl]

@[simp] theorem now_takeAt : (s.takeAt m i).now = s.now := by
  rw [takeAt, now_foldl]

theorem closes_takeAt :
    (s.takeAt m i).transport.closes =
      s.transport.closes + (closed (s.client.step s.config m i).2).length := by
  rw [takeAt, closes_foldl]

theorem inbox_takeAt (h : opens (s.client.step s.config m i).2 = []) :
    (s.takeAt m i).transport.inbox = s.transport.inbox := by
  rw [takeAt, inbox_foldl _ _ h]

theorem live_takeAt (h : opens (s.client.step s.config m i).2 = []) :
    (s.takeAt m i).transport.live =
      liveAfter s.transport.live (closed (s.client.step s.config m i).2) := by
  rw [takeAt, live_foldl _ _ h]

theorem events_takeAt {all : List Event} (h : s.events.Holds all) :
    (s.takeAt m i).events.Holds (all ++ published (s.client.step s.config m i).2) :=
  events_foldl _ _ h

end Take

/-- What a scene takes next, and the scene that is to take it. -/
inductive Next (s : Scene) : Input → Scene → Prop
  | begin {url : String} (hlink : s.client.link = .waiting url) : Next s .begin s
  | delivery {i : Input} {inbox : List Input} (hlink : ∀ url, s.client.link ≠ .waiting url)
      (hinbox : s.transport.inbox = i :: inbox) :
      Next s i { s with transport := { s.transport with inbox } }
  | ping (hdue : s.client.keepalive.isDue s.now = true) : Next s .ping s
  | retry (hdue : s.client.retry.any (· ≤ s.now) = true) : Next s .retry s
  | expired {call deadline : Nat} (hlink : s.client.link = .opening call deadline)
      (hdue : deadline ≤ s.now) : Next s .expired s

theorem next_of_next? {s s' : Scene} {i : Input} (h : s.next? = some (i, s')) : Next s i s' := by
  rw [next?] at h
  split at h
  · rename_i hlink
    cases h
    exact .begin hlink
  · rename_i hinbox hlink
    cases h
    exact .delivery hlink hinbox
  · -- With nothing to deliver it is the timers' turn.
    split_ifs at h with hping hretry
    · cases h
      exact .ping hping
    · cases h
      exact .retry hretry
    · split at h
      · rename_i hlink
        split_ifs at h with hdue
        cases h
        exact .expired hlink hdue
      · cases h

theorem now_of_next? {s s' : Scene} {i : Input} (h : s.next? = some (i, s')) :
    s'.now = s.now := by
  cases next_of_next? h <;> rfl

end Scene

end EventFeed.Scenario
