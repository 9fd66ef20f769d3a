import EventFeed.Notification.Session
import EventFeed.Proofs.Connection.Requests
import EventFeed.Proofs.Connection.Silence

/-!
# Following sign-ins

Of the sign-ins and sign-outs that are published, the task that follows them reads the latest one
when it wakes up, and sends the client what is to be done; the client takes that when it comes to
it. `Binding` has all three, and their moves come in any order. A sign-out that is followed by a
sign-in before the task wakes up is never read, and then the old connection stays. Every sign-out
that is read ends the connection that there was: this is `noticed_logout_ends_connection`.
-/

namespace EventFeed.Notification

open Connection (Client Command Config Input Moment Settled Token)

/-- Whether an input asks the client for a connection, or for none. -/
def steers : Input → Bool
  | .command (.connect _) => true
  | .command .disconnect => true
  | _ => false

structure Binding where
  client : Client
  /-- What was sent to the client and not yet taken by it. -/
  queue : List Command
  latest : Option Token
  /-- Whether the latest value is still to be read. -/
  unread : Bool

namespace Binding

inductive Move where
  | publish (value : Option Token)
  | wake
  | deliver (m : Moment)
  /-- Something else that the client takes. -/
  | other (m : Moment) (i : Input) (hown : steers i = false)

section Moves

variable (c : Config) (session : Session)

def step (s : Binding) : Move → Binding
  | .publish value => { s with latest := value, unread := true }
  | .wake =>
    if s.unread then { s with queue := s.queue ++ session.follow s.latest, unread := false } else s
  | .deliver m =>
    match s.queue with
    | [] => s
    | command :: queue =>
      { s with client := (s.client.step c m (.command command)).1, queue }
  | .other m i _ => { s with client := (s.client.step c m i).1 }

/-- The moves from the start, where the task has yet to read the first value. -/
def play (first : Option Token) (moves : List Move) : Binding :=
  moves.foldl (step c session) ⟨.initial c, [], first, true⟩

theorem play_append (first : Option Token) (moves rest : List Move) :
    play c session first (moves ++ rest) =
      rest.foldl (step c session) (play c session first moves) := by
  rw [play, List.foldl_append, play]

theorem play_concat (first : Option Token) (moves : List Move) (x : Move) :
    play c session first (moves ++ [x]) = (play c session first moves).step c session x := by
  rw [play_append, List.foldl_cons, List.foldl_nil]

end Moves

/-- The latest value is read, and the client has taken all that was sent to it. -/
def AtRest (s : Binding) : Prop := s.unread = false ∧ s.queue = []

instance (s : Binding) : Decidable s.AtRest :=
  inferInstanceAs (Decidable (s.unread = false ∧ s.queue = []))

theorem foldl_deliver (c : Config) (session : Session) (m : Moment) (s : Binding) :
    (List.replicate s.queue.length (.deliver m)).foldl (step c session) s =
      { s with
        client := (s.client.run c (s.queue.map fun command ↦ (m, .command command))).1
        queue := [] } := by
  obtain ⟨client, queue, latest, unread⟩ := s
  induction queue generalizing client with
  | nil => rfl
  | cons command queue ih => exact ih _

/-- A value with whose handling nothing interferes makes the client run through what follows. -/
theorem handled_at_once (c : Config) (session : Session) {s : Binding} (hrest : s.AtRest)
    (value : Option Token) (m : Moment) :
    (.publish value :: .wake ::
        List.replicate (session.follow value).length (.deliver m)).foldl (step c session) s =
      { client :=
          (s.client.run c ((session.follow value).map fun command ↦ (m, .command command))).1
        queue := [], latest := value, unread := false } := by
  obtain ⟨client, queue, latest, unread⟩ := s
  obtain ⟨-, rfl⟩ := hrest
  exact foldl_deliver c session m ⟨client, session.follow value, value, false⟩

/-- Whether the task wakes up before another value is published. -/
def Noticed (rest : List Move) : Prop :=
  ∃ mid later, rest = mid ++ .wake :: later ∧ ∀ value, .publish value ∉ mid

section Steps

variable {c : Config} {session : Session} {s : Binding} {x : Move}

theorem settled_step (h : Settled c s.client) (x : Move) :
    Settled c (s.step c session x).client := by
  cases x with
  | publish value => exact h
  | wake =>
      simp only [step]
      split <;> exact h
  | deliver m =>
      cases hqueue : s.queue with
      | nil => simpa [step, hqueue] using h
      | cons command queue => simpa [step, hqueue] using h.step m (.command command)
  | other m i hown => exact h.step m i

/-- Whether the client will want no connection when it has taken a command. -/
def heading (closing : Bool) : Command → Bool
  | .connect _ => false
  | .disconnect => true
  | _ => closing

/-- Whether the client will want no connection when it has taken all that was sent to it. -/
def quits (s : Binding) : Bool := s.queue.foldl heading s.client.closing

theorem foldl_heading_of_imp {closing closing' : Bool} (himp : closing = true → closing' = true)
    (queue : List Command) (h : queue.foldl heading closing = true) :
    queue.foldl heading closing' = true := by
  induction queue generalizing closing closing' with
  | nil => exact himp h
  | cons command queue ih =>
      refine ih ?_ h
      cases command <;> simp_all [heading]

theorem closing_step (h : Settled c s.client) (m : Moment) {i : Input} (hown : steers i = false)
    (hclosing : s.client.closing = true) : (s.client.step c m i).1.closing = true := by
  have hi : ∀ token, i ≠ .command (.connect token) := by
    rintro token rfl
    cases hown
  rw [(Client.step_of_closing h hclosing m hi).1, Client.closing_note, hclosing]

theorem closing_command (h : Settled c s.client) (m : Moment) {command : Command}
    (hheading : heading s.client.closing command = true) :
    (s.client.step c m (.command command)).1.closing = true := by
  cases command with
  | connect token => cases hheading
  | disconnect => exact Client.closing_step_disconnect h m
  | subscribe topic => exact closing_step h m rfl hheading
  | unsubscribe topic => exact closing_step h m rfl hheading
  | status => exact closing_step h m rfl hheading
  | stop => exact closing_step h m rfl hheading

/-- Once the task has read that nobody is signed in, the client is on its way to rest. -/
theorem quits_step (h : Settled c s.client)
    (ih : s.unread = false → s.latest = none → s.quits = true)
    (hread : (s.step c session x).unread = false) (hnone : (s.step c session x).latest = none) :
    (s.step c session x).quits = true := by
  cases x with
  | publish value => cases hread
  | wake =>
      cases hunread : s.unread with
      | false =>
          simp only [step, hunread] at hnone ⊢
          exact ih hunread hnone
      | true =>
          have hlatest : s.latest = none := by simpa [step, hunread] using hnone
          simp [step, hunread, hlatest, quits, Session.follow, Session.finish, heading]
  | deliver m =>
      cases hqueue : s.queue with
      | nil =>
          simp only [step, hqueue] at hread hnone ⊢
          exact ih hread hnone
      | cons command queue =>
          simp only [step, hqueue] at hread hnone ⊢
          have hquits := ih hread hnone
          rw [quits, hqueue, List.foldl_cons] at hquits
          exact foldl_heading_of_imp (closing_command h m) queue hquits
  | other m i hown => exact foldl_heading_of_imp (closing_step h m hown) _ (ih hread hnone)

/-- A sign-out is on its way to the client, or each call at hand came after the first `n`. -/
def Ended (n : Nat) (s : Binding) : Prop :=
  .disconnect ∈ s.queue ∨ ∀ call, s.client.link.call? = some call → n < call

theorem call_step (h : Settled c s.client) {n : Nat} (hmade : n ≤ s.client.calls)
    (hnew : ∀ call, s.client.link.call? = some call → n < call) (m : Moment) (i : Input) :
    ∀ call, (s.client.step c m i).1.link.call? = some call → n < call := by
  intro call hcall
  rcases Client.call_reaction (Client.reaction_step h m i) hcall with ⟨hbefore, -⟩ | ⟨hnext, -⟩
  · exact hnew call hbefore
  · omega

theorem calls_step (h : Settled c s.client) (x : Move) :
    s.client.calls ≤ (s.step c session x).client.calls := by
  cases x with
  | publish value => exact le_rfl
  | wake =>
      simp only [step]
      split <;> exact le_rfl
  | deliver m =>
      cases hqueue : s.queue with
      | nil => simp [step, hqueue]
      | cons command queue =>
          simpa [step, hqueue] using Client.calls_le_reaction (Client.reaction_step h m _)
  | other m i hown => exact Client.calls_le_reaction (Client.reaction_step h m i)

theorem Ended.step {n : Nat} (h : s.Ended n) (hs : Settled c s.client) (hmade : n ≤ s.client.calls)
    (x : Move) : (s.step c session x).Ended n := by
  cases x with
  | publish value => exact h
  | wake =>
      cases hunread : s.unread with
      | false => simpa [Binding.step, hunread] using h
      | true =>
          simp only [Binding.step, hunread, if_true]
          exact h.imp_left fun hmem ↦ List.mem_append_left _ hmem
  | deliver m =>
      cases hqueue : s.queue with
      | nil => simpa [Binding.step, hqueue] using h
      | cons command queue =>
          simp only [Binding.step, hqueue]
          rw [Ended, hqueue, List.mem_cons] at h
          rcases h with (rfl | hmem) | hnew
          · have hclosing := Client.closing_step_disconnect hs m
            have hidle := ((hs.step m _).closing hclosing).1
            exact Or.inr fun call hcall ↦ by simp [hidle, Connection.Link.call?] at hcall
          · exact Or.inl hmem
          · exact Or.inr (call_step hs hmade hnew m _)
  | other m i hown => exact h.imp_right fun hnew ↦ call_step hs hmade hnew m i

end Steps

section Runs

variable {c : Config} {session : Session} {first : Option Token} {moves : List Move}

theorem settled_play (c : Config) (session : Session) (first : Option Token) (moves : List Move) :
    Settled c (play c session first moves).client := by
  induction moves using List.reverseRecOn with
  | nil => exact .initial c
  | append_singleton moves x ih =>
      rw [play_concat]
      exact settled_step ih x

theorem quits_play (hread : (play c session first moves).unread = false)
    (hnone : (play c session first moves).latest = none) :
    (play c session first moves).quits = true := by
  induction moves using List.reverseRecOn with
  | nil => cases hread
  | append_singleton moves x ih =>
      rw [play_concat] at hread hnone ⊢
      exact quits_step (settled_play c session first moves) ih hread hnone

theorem ended_foldl {n : Nat} {s : Binding} (h : s.Ended n) (hs : Settled c s.client)
    (hmade : n ≤ s.client.calls) (rest : List Move) :
    (rest.foldl (step c session) s).Ended n := by
  induction rest generalizing s with
  | nil => exact h
  | cons x rest ih =>
      exact ih (h.step hs hmade x) (settled_step hs x) (hmade.trans (calls_step hs x))

theorem ended_wake {s : Binding} (hunread : s.unread = true) (hnone : s.latest = none) (n : Nat) :
    (s.step c session .wake).Ended n := by
  simp [step, hunread, hnone, Ended, Session.follow, Session.finish]

/-- A sign-out that is still to be read when the task wakes up ends what there is by then. -/
theorem ended_of_noticed {n : Nat} {s : Binding} (hs : Settled c s.client)
    (hmade : n ≤ s.client.calls) (hunread : s.unread = true) (hnone : s.latest = none)
    {rest : List Move} (hrest : Noticed rest) : (rest.foldl (step c session) s).Ended n := by
  obtain ⟨mid, later, rfl, hquiet⟩ := hrest
  induction mid generalizing s with
  | nil =>
      exact ended_foldl (ended_wake hunread hnone n) (settled_step hs .wake)
        (hmade.trans (calls_step hs .wake)) later
  | cons x mid ih =>
      have hlater : ∀ value, .publish value ∉ mid := fun value hmem ↦
        hquiet value (List.mem_cons_of_mem _ hmem)
      have hs' : Settled c (s.step c session x).client := settled_step hs x
      have hmade' : n ≤ (s.step c session x).client.calls := hmade.trans (calls_step hs x)
      rw [List.cons_append, List.foldl_cons]
      cases x with
      | publish value => exact absurd List.mem_cons_self (hquiet value)
      | wake => exact ended_foldl (ended_wake hunread hnone n) hs' hmade' _
      | deliver m =>
          have hkeeps : (s.step c session (.deliver m)).unread = s.unread ∧
              (s.step c session (.deliver m)).latest = s.latest := by
            cases hqueue : s.queue <;> simp [step, hqueue]
          exact ih hs' hmade' (hkeeps.1.trans hunread) (hkeeps.2.trans hnone) hlater
      | other m i hown => exact ih hs' hmade' hunread hnone hlater

/-- At rest after any moves: if nobody is signed in, the client has no connection and waits for
none. If it is connected, its call was made after every sign-out that the task has noticed. What is
published next does, when nothing interferes, what a sign-in or sign-out asks of the client. -/
theorem noticed_logout_ends_connection (hrest : (play c session first moves).AtRest) :
    let s := play c session first moves
    (s.latest = none →
      s.client.state = .disconnected ∧ s.client.retry = none ∧ s.client.link = .idle) ∧
    (s.client.state = .connected → ∃ call, s.client.link = .open call ∧
      ∀ before rest, moves = before ++ .publish none :: rest → Noticed rest →
        (play c session first before).client.calls < call) ∧
    ∀ value m, play c session first (moves ++ .publish value :: .wake ::
        List.replicate (session.follow value).length (.deliver m)) =
      { client :=
          (s.client.run c ((session.follow value).map fun command ↦ (m, .command command))).1
        queue := [], latest := value, unread := false } := by
  intro s
  have hs : Settled c s.client := settled_play c session first moves
  obtain ⟨hread, hqueue⟩ := id hrest
  refine ⟨fun hnone ↦ ?_, fun hconnected ↦ ?_, fun value m ↦ ?_⟩
  · have hquits := quits_play hread hnone
    rw [quits, hqueue, List.foldl_nil] at hquits
    have hsilent := Client.silent_of_closing hs hquits
    exact ⟨hsilent.state, hsilent.retry, hsilent.link⟩
  · obtain ⟨call, hlink⟩ := Connection.Link.isOpen_iff.1 (hs.state_eq_connected_iff.1 hconnected)
    refine ⟨call, hlink, fun before rest hmoves hnoticed ↦ ?_⟩
    have hended : s.Ended (play c session first before).client.calls := by
      have hbefore := settled_play c session first before
      have hpublished : Settled c
          ((play c session first before).step c session (.publish none)).client :=
        settled_step hbefore _
      have hplay : s = rest.foldl (step c session)
          ((play c session first before).step c session (.publish none)) := by
        rw [← play_concat, ← play_append, List.append_assoc, List.singleton_append, ← hmoves]
      rw [hplay]
      exact ended_of_noticed hpublished le_rfl rfl rfl hnoticed
    rw [Ended, hqueue] at hended
    exact (hended.resolve_left List.not_mem_nil) call (by rw [hlink]; rfl)
  · rw [play_append]
    exact handled_at_once c session hrest value m

/-- The first user's connection is open. -/
def signedIn : List Move :=
  [.wake, .deliver (.clear 0), .other (.clear 0) .begin rfl, .other (.clear 0) (.opened 1) rfl]

/-- The task wakes up between the sign-out and the next sign-in. -/
theorem next_user_gets_a_new_connection :
    let moves : List Move := signedIn ++ .publish none :: [.wake, .publish (some ⟨"b"⟩), .wake,
      .deliver (.clear 0), .deliver (.clear 0), .other (.clear 0) .begin rfl,
      .other (.clear 0) (.opened 2) rfl]
    let s := play .default ⟨[]⟩ (some ⟨"a"⟩) moves
    s.AtRest ∧ s.client.state = .connected ∧ ∃ call, s.client.link = .open call ∧ 1 < call := by
  intro moves s
  have hrest : s.AtRest := by decide
  have hconnected : s.client.state = .connected := by decide
  have hnoticed : Noticed [.wake, .publish (some ⟨"b"⟩), .wake, .deliver (.clear 0),
      .deliver (.clear 0), .other (.clear 0) .begin rfl, .other (.clear 0) (.opened 2) rfl] :=
    ⟨[], _, rfl, by simp⟩
  obtain ⟨call, hlink, hcall⟩ := (noticed_logout_ends_connection hrest).2.1 hconnected
  exact ⟨hrest, hconnected, call, hlink, hcall signedIn _ rfl hnoticed⟩

/-- The task does not wake up between the sign-out and the next sign-in. The client is asked for a
connection that it has, and the second user gets the one that was opened for the first. -/
theorem next_user_gets_the_old_connection :
    let moves : List Move :=
      signedIn ++ .publish none :: [.publish (some ⟨"b"⟩), .wake, .deliver (.clear 0)]
    let s := play .default ⟨[]⟩ (some ⟨"a"⟩) moves
    s.AtRest ∧ s.latest = some ⟨"b"⟩ ∧ s.client.state = .connected ∧ s.client.link = .open 1 ∧
      s.client.token = some ⟨"a"⟩ ∧
        (play .default ⟨[]⟩ (some ⟨"a"⟩) signedIn).client.calls = 1 := by
  decide

end Runs

end Binding

end EventFeed.Notification
