import EventFeed.Proofs.Connection.Rest
import Mathlib.Data.List.Nodup
import Mathlib.Data.Set.Insert

/-!
# What the server knows

The server learns of topics only through the frames of the connection it has. `served` is the set
of topics that it should then serve, and `Synced` keeps it equal to the client's own set through
every run. The main result is `connected_in_sync`: a connection starts with one frame for each
topic, and all its frames together tell the server what the client wants.
-/

namespace EventFeed.Connection

/-- A server's topics after one more frame. -/
def heed (topics : Set Topic) (frame : Frame.Control) : Set Topic :=
  match frame.action, frame.topic with
  | .subscribe, some topic => insert topic topics
  | .unsubscribe, some topic => topics \ {topic}
  | _, _ => topics

def served (frames : List Frame.Control) : Set Topic := frames.foldl heed ∅

@[simp] theorem heed_subscribe (topics : Set Topic) (topic : Topic) :
    heed topics (.subscribe topic) = insert topic topics := rfl

@[simp] theorem heed_unsubscribe (topics : Set Topic) (topic : Topic) :
    heed topics (.unsubscribe topic) = topics \ {topic} := rfl

@[simp] theorem heed_ping (topics : Set Topic) : heed topics .ping = topics := rfl

theorem served_concat (frames : List Frame.Control) (frame : Frame.Control) :
    served (frames ++ [frame]) = heed (served frames) frame := by
  simp [served]

namespace Topics

theorem foldl_heed_subscribe (xs : List Topic) (topics : Set Topic) :
    (xs.map .subscribe).foldl heed topics = topics ∪ {topic | topic ∈ xs} := by
  induction xs generalizing topics with
  | nil => simp
  | cons x xs ih =>
      rw [List.map_cons, List.foldl_cons, ih, heed_subscribe]
      ext topic
      simp only [Set.mem_union, Set.mem_insert_iff, Set.mem_ofPred_eq, List.mem_cons]
      tauto

/-- The replay alone tells the server all topics. -/
theorem served_replay (topics : Topics) : served topics.replay = {topic | topic ∈ topics} := by
  rw [served, replay, foldl_heed_subscribe, Set.empty_union]
  rfl

theorem subscribe_injective : Function.Injective Frame.Control.subscribe := by
  intro s t h
  simpa [Frame.Control.subscribe] using h

theorem nodup_replay (topics : Topics) : topics.replay.Nodup :=
  List.Nodup.map subscribe_injective topics.nodup

theorem mem_replay {topics : Topics} {frame : Frame.Control} :
    frame ∈ topics.replay ↔ ∃ topic ∈ topics, frame = .subscribe topic := by
  simp [replay, mem_def, eq_comm]

end Topics

/-- A wish changes the client's topics as its frame changes the server's. -/
theorem Client.Wish.heed_eq {before after : Topics} {command : Command} {frame : Frame.Control}
    {entry : Telemetry.Entry} (w : Client.Wish before command after frame entry) :
    heed {topic | topic ∈ before} frame = {topic | topic ∈ after} := by
  cases w with
  | subscribe t =>
      ext topic
      simp
  | unsubscribe t =>
      ext topic
      simp [and_comm]

/-- The frame of an effect, if it was sent on the given connection. -/
@[simp] def Effect.frameOn? (call : Nat) : Effect → Option Frame.Control
  | .send n frame => if n = call then some frame else none
  | .open .. | .close _ | .become _ | .publish _ | .answer _ | .report _ => none

def sentOn (call : Nat) (effects : List Effect) : List Frame.Control :=
  effects.filterMap (Effect.frameOn? call)

section SentOn

variable (call : Nat)

@[simp] theorem sentOn_nil : sentOn call [] = [] := rfl

@[simp] theorem sentOn_cons (e : Effect) (effects : List Effect) :
    sentOn call (e :: effects) = (e.frameOn? call).toList ++ sentOn call effects := by
  simp only [sentOn, List.filterMap_cons]
  cases e.frameOn? call <;> rfl

@[simp] theorem sentOn_append (first rest : List Effect) :
    sentOn call (first ++ rest) = sentOn call first ++ sentOn call rest :=
  List.filterMap_append

theorem sentOn_sent (n : Nat) (frames : List Frame.Control) :
    sentOn call (frames.map (.send n)) = if n = call then frames else [] := by
  by_cases h : n = call
  · simp [sentOn, List.filterMap_map, Function.comp_def, h]
  · simp [sentOn, List.filterMap_map, Function.comp_def, h]

end SentOn

/-- The call whose outcome or connection a link waits for. -/
def Link.call? : Link → Option Nat
  | .opening call _ => some call
  | .open call => some call
  | _ => none

namespace Client

section Reactions

variable {c : Config} {m : Moment} {s s' : Client} {i : Input} {effects : List Effect}

@[simp] theorem sentOn_lossEffects (call : Nat) (c : Config) (s : Client) :
    sentOn call (s.lossEffects c) = [] := by
  by_cases h : c.backoff.allows s.attempts = true <;> simp [lossEffects, h]

@[simp] theorem sentOn_faultEffects (call : Nat) (c : Config) (f : Fault) (s : Client) :
    sentOn call (s.faultEffects c f) = [] := by
  cases h : s.link <;> simp [faultEffects, h, Link.release]

@[simp] theorem sentOn_become (call : Nat) (s : Client) (state : State) :
    sentOn call (s.become state) = [] := by
  by_cases h : s.state = state <;> simp [become, h]

@[simp] theorem sentOn_release (call : Nat) (l : Link) : sentOn call l.release = [] := by
  cases l <;> simp [Link.release]

@[simp] theorem sentOn_heardEffect (call : Nat) (text : String) :
    sentOn call [heardEffect text] = [] := by
  rcases heardEffect_cases text with ⟨event, he⟩ | ⟨entry, he⟩ <;> simp [he]

theorem sentOn_reaction_of_ne (r : Reaction c m s i s' effects) {call : Nat}
    (hcall : s.link.call? ≠ some call) : sentOn call effects = [] := by
  cases r with
  | told w hlink => simpa [hlink, Link.call?] using hcall
  | pinged hlink => simpa [hlink, Link.call?] using hcall
  | @opened n deadline hlink =>
      have hne : n ≠ call := by simpa [hlink, Link.call?] using hcall
      simp [sentOn_sent, hne]
  | @broken n deadline _ _ _ _ hlink =>
      have hne : n ≠ call := by simpa [hlink, Link.call?] using hcall
      simp [sentOn_sent, hne]
  | heard => exact sentOn_heardEffect call _
  | _ => simp

theorem calls_le_reaction (r : Reaction c m s i s' effects) : s.calls ≤ s'.calls := by
  cases r <;> simp [dial, hangUp, accept]

end Reactions

/-- The connection came of the input after `before`, and has been there since. -/
def OpenSince (c : Config) (before inputs : List (Moment × Input)) (call : Nat) : Prop :=
  ∃ m rest, inputs = before ++ (m, .opened call) :: rest ∧
    (∃ deadline, (after c before).link = .opening call deadline) ∧
    ∀ part, part <+: rest → (after c (before ++ (m, .opened call) :: part)).link = .open call

section Openings

variable {c : Config} {inputs : List (Moment × Input)} {m : Moment}

theorem openSince_concat {call deadline : Nat}
    (hopening : (after c inputs).link = .opening call deadline)
    (hopen : (after c (inputs ++ [(m, .opened call)])).link = .open call) :
    OpenSince c inputs (inputs ++ [(m, .opened call)]) call := by
  refine ⟨m, [], rfl, ⟨deadline, hopening⟩, fun part hpart ↦ ?_⟩
  rw [List.prefix_nil.1 hpart]
  exact hopen

theorem OpenSince.concat {before : List (Moment × Input)} {call : Nat} {i : Input}
    (h : OpenSince c before inputs call)
    (hopen : (after c (inputs ++ [(m, i)])).link = .open call) :
    OpenSince c before (inputs ++ [(m, i)]) call := by
  obtain ⟨m₀, rest, rfl, hopening, hsince⟩ := h
  refine ⟨m₀, rest ++ [(m, i)], by simp, hopening, fun part hpart ↦ ?_⟩
  rcases List.prefix_concat_iff.1 hpart with rfl | hpart
  · simpa using hopen
  · exact hsince part hpart

end Openings

/-- What the frames of a connection say: first the topics there were when it was opened, and all
together the topics there are. -/
def Mirrored (c : Config) (inputs : List (Moment × Input)) (topics : Topics) (call : Nat)
    (frames : List Frame.Control) : Prop :=
  served frames = {topic | topic ∈ topics} ∧
    ∃ before later, OpenSince c before inputs call ∧
      frames = (after c before).topics.replay ++ later

theorem Mirrored.concat {c : Config} {inputs : List (Moment × Input)} {m : Moment} {i : Input}
    {topics topics' : Topics} {call : Nat} {frames more : List Frame.Control}
    (h : Mirrored c inputs topics call frames)
    (hopen : (after c (inputs ++ [(m, i)])).link = .open call)
    (hmore : served (frames ++ more) = {topic | topic ∈ topics'}) :
    Mirrored c (inputs ++ [(m, i)]) topics' call (frames ++ more) := by
  obtain ⟨-, before, later, hsince, hframes⟩ := h
  refine ⟨hmore, before, later ++ more, hsince.concat hopen, ?_⟩
  rw [hframes, List.append_assoc]

/-- The server of the connection at hand knows what the client wants; a call that has no
connection yet has seen no frame, nor has one that is still to be made. -/
structure Synced (c : Config) (inputs : List (Moment × Input)) (s : Client)
    (effects : List Effect) : Prop where
  made : ∀ call, s.link.call? = some call → call ≤ s.calls
  fresh : ∀ call, s.calls < call → sentOn call effects = []
  opening : ∀ call deadline, s.link = .opening call deadline → sentOn call effects = []
  mirrored : ∀ call, s.link = .open call → Mirrored c inputs s.topics call (sentOn call effects)

namespace Synced

variable {c : Config} {inputs : List (Moment × Input)} {m : Moment} {i : Input} {s s' : Client}
  {effects more : List Effect}

theorem start (c : Config) : Synced c [] (initial c) [] where
  made := by simp [initial, Link.call?]
  fresh := by simp
  opening := by simp
  mirrored := by simp [initial]

theorem fresh_reaction (h : Synced c inputs s effects) (r : Reaction c m s i s' more) (call : Nat)
    (hcall : s'.calls < call) : sentOn call (effects ++ more) = [] := by
  have hlt : s.calls < call := (calls_le_reaction r).trans_lt hcall
  have hne : s.link.call? ≠ some call := fun heq ↦ absurd (h.made call heq) (by omega)
  rw [sentOn_append, h.fresh call hlt, sentOn_reaction_of_ne r hne, List.append_nil]

/-- Without a call at hand there is nothing to know. -/
theorem gone (h : Synced c inputs s effects) (r : Reaction c m s i s' more)
    (hgone : s'.link.call? = none) : Synced c (inputs ++ [(m, i)]) s' (effects ++ more) where
  made := by simp [hgone]
  fresh := h.fresh_reaction r
  opening := by
    intro call deadline hlink
    simp [hlink, Link.call?] at hgone
  mirrored := by
    intro call hlink
    simp [hlink, Link.call?] at hgone

/-- On a link that is kept, the frames have to keep up with the topics. -/
theorem keep (h : Synced c inputs s effects) (r : Reaction c m s i s' more)
    (hafter : after c (inputs ++ [(m, i)]) = s') (hlink : s'.link = s.link)
    (hopening : ∀ call deadline, s.link = .opening call deadline → sentOn call more = [])
    (hopen : ∀ call, s.link = .open call →
      served (sentOn call effects ++ sentOn call more) = {topic | topic ∈ s'.topics}) :
    Synced c (inputs ++ [(m, i)]) s' (effects ++ more) where
  made := by
    intro call hcall
    rw [hlink] at hcall
    exact (h.made call hcall).trans (calls_le_reaction r)
  fresh := h.fresh_reaction r
  opening := by
    intro call deadline hl
    rw [hlink] at hl
    rw [sentOn_append, h.opening call deadline hl, hopening call deadline hl, List.append_nil]
  mirrored := by
    intro call hl
    rw [sentOn_append]
    refine (h.mirrored call (hlink ▸ hl)).concat (hafter ▸ hl) ?_
    exact hopen call (hlink ▸ hl)

/-- A frame that is sent tells the server what has become of the topics. -/
theorem served_concat_of_open (h : Synced c inputs s effects) {call : Nat}
    (hlink : s.link = .open call) {frame : Frame.Control} {topics : Topics}
    (hheed : heed {topic | topic ∈ s.topics} frame = {topic | topic ∈ topics}) :
    served (sentOn call effects ++ sentOn call [.send call frame]) =
      {topic | topic ∈ topics} := by
  have hframe : sentOn call [.send call frame] = [frame] := by simp
  rw [hframe, served_concat, (h.mirrored call hlink).1, hheed]

theorem reaction (h : Synced c inputs s effects) (hinputs : after c inputs = s)
    (r : Reaction c m s i s' more) (hafter : after c (inputs ++ [(m, i)]) = s') :
    Synced c (inputs ++ [(m, i)]) s' (effects ++ more) := by
  have hserved : ∀ call, s.link = .open call →
      served (sentOn call effects) = {topic | topic ∈ s.topics} :=
    fun call hlink ↦ (h.mirrored call hlink).1
  cases r with
  | ignored hi =>
      exact h.keep (.ignored hi) hafter rfl (by simp) (by simpa using hserved)
  | asked => exact h.keep .asked hafter rfl (by simp) (by simpa using hserved)
  | heard hlink =>
      refine h.keep (.heard hlink) hafter rfl (by simp [hlink]) fun call hl ↦ ?_
      rw [sentOn_heardEffect, List.append_nil]
      exact hserved call hl
  | noted w hclosed =>
      refine h.keep (.noted w hclosed) hafter rfl (by simp) fun call hlink ↦ ?_
      simp [hlink, Link.isOpen] at hclosed
  | told w hlink hsent =>
      refine h.keep (.told w hlink hsent) hafter rfl (by simp [hlink]) fun call hl ↦ ?_
      cases hlink.symm.trans hl
      exact h.served_concat_of_open hlink w.heed_eq
  | pinged hlink hdue hsent =>
      refine h.keep (.pinged hlink hdue hsent) hafter rfl (by simp [hlink]) fun call hl ↦ ?_
      cases hlink.symm.trans hl
      exact h.served_concat_of_open hlink (heed_ping _)
  -- A call gets a number that no frame was sent under, which is what `opened` builds on.
  | called hlink =>
      have hnext : sentOn (s.calls + 1) effects = [] := h.fresh _ (Nat.lt_succ_self _)
      refine ⟨?_, h.fresh_reaction (.called hlink), ?_, ?_⟩
      · simp [Link.call?]
      · rintro call deadline ⟨⟩
        simpa using hnext
      · rintro call ⟨⟩
  | @opened call deadline hlink hsent =>
      have hnone : sentOn call effects = [] := h.opening call deadline hlink
      have hframes : sentOn call
          (effects ++ .become .connected :: s.topics.replay.map (.send call)) =
            s.topics.replay := by simp [hnone, sentOn_sent]
      refine ⟨?_, h.fresh_reaction (.opened hlink hsent), ?_, ?_⟩
      · rintro n ⟨⟩
        exact h.made call (by simp [hlink, Link.call?])
      · rintro n time ⟨⟩
      · rintro n ⟨⟩
        rw [hframes]
        have hsince : OpenSince c inputs (inputs ++ [(m, .opened call)]) call :=
          openSince_concat (hinputs ▸ hlink) (by rw [hafter]; rfl)
        exact ⟨s.topics.served_replay, inputs, [], hsince, by rw [hinputs, List.append_nil]⟩
  -- The rest end with no call at hand, whatever part of a replay was sent.
  | dialled hlink hlive => exact h.gone (.dialled hlink hlive) rfl
  | retried hlink htime hdue => exact h.gone (.retried hlink htime hdue) rfl
  | hungUp => exact h.gone .hungUp rfl
  | stopped => exact h.gone .stopped rfl
  | untold w hlink hrefused => exact h.gone (.untold w hlink hrefused) (by simp [Link.call?])
  | broken hlink hreplay hsent hrefused =>
      exact h.gone (.broken hlink hreplay hsent hrefused) (by simp [Link.call?])
  | failed hfails => exact h.gone (.failed hfails) (by simp [Link.call?])
  | closed hlink => exact h.gone (.closed hlink) (by simp [Link.call?])

end Synced

theorem synced_after (c : Config) (inputs : List (Moment × Input)) :
    Synced c inputs (after c inputs) (history c inputs) := by
  refine after_induction c (motive := Synced c) (.start c) ?_ inputs
  intro inputs m i s' effects _ r hafter ih
  exact ih.reaction rfl r hafter

/-- A connection starts with one frame for each topic that the client then has and no other, and
all its frames together tell the server the topics that the client has now. -/
theorem connected_in_sync (c : Config) (inputs : List (Moment × Input))
    (hconnected : (after c inputs).state = .connected) :
    ∃ call before first later,
      OpenSince c before inputs call ∧ (after c inputs).link = .open call ∧
        sentOn call (history c inputs) = first ++ later ∧
          (first.Nodup ∧
            ∀ frame, frame ∈ first ↔
              ∃ topic ∈ (after c before).topics, frame = .subscribe topic) ∧
            served (sentOn call (history c inputs)) =
              {topic | topic ∈ (after c inputs).topics} := by
  have hopen := (settled_after c inputs).state_eq_connected_iff.1 hconnected
  obtain ⟨call, hlink⟩ := Link.isOpen_iff.1 hopen
  obtain ⟨hserved, before, later, hsince, hframes⟩ :=
    (synced_after c inputs).mirrored call hlink
  exact ⟨call, before, (after c before).topics.replay, later, hsince, hlink, hframes,
    ⟨Topics.nodup_replay _, fun _ ↦ Topics.mem_replay⟩, hserved⟩

/-- The first connection breaks on the frame for `alerts`, and the second one starts with it. -/
def rejoining : List (Moment × Input) :=
  [(.clear 0, .command (.subscribe "cases")), (.clear 0, .command (.connect none)),
    (.clear 0, .begin), (.clear 0, .opened 1),
    (⟨0, fun _ ↦ some (.sendFailed "gone")⟩, .command (.subscribe "alerts")),
    (.clear 1000, .retry), (.clear 1000, .begin), (.clear 1000, .opened 2),
    (.clear 1000, .command (.unsubscribe "cases"))]

theorem rejoining_in_sync :
    (after .default rejoining).state = .connected ∧
      served (sentOn 2 (history .default rejoining)) =
        {topic | topic ∈ (after .default rejoining).topics} := by
  have hconnected : (after .default rejoining).state = .connected := by decide
  have hlink : (after .default rejoining).link = .open 2 := by decide
  obtain ⟨call, -, -, -, -, hcall, -, -, hserved⟩ :=
    connected_in_sync .default rejoining hconnected
  cases hlink.symm.trans hcall
  exact ⟨hconnected, hserved⟩

end Client

end EventFeed.Connection
