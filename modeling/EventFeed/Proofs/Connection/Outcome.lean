import EventFeed.Connection.Turn

/-!
# Outcomes of a turn

The client and the effects after each part of a turn, in closed form. A client that loses its
connection goes through the same steps whatever the reason; `Turn.fail_eq` and `Turn.lost_eq` say
so, and `Turn.sendAll_cases` says where a sequence of frames can break off.
-/

namespace EventFeed.Connection

/-- A moment at which every frame is sent. -/
def Moment.clear (now : Nat) : Moment := ⟨now, fun _ ↦ none⟩

namespace Link

def isOpen : Link → Bool
  | .open _ => true
  | _ => false

/-- Whether an attempt is under way, be its call made or not. -/
def isOpening : Link → Bool
  | .waiting _ => true
  | .opening _ _ => true
  | _ => false

/-- The state that goes with a link. -/
def state : Link → State
  | .idle => .disconnected
  | .waiting _ => .connecting
  | .opening _ _ => .connecting
  | .open _ => .connected

/-- Only a connection has to be closed. -/
def release : Link → List Effect
  | .open call => [.close call]
  | _ => []

theorem isOpen_iff {l : Link} : l.isOpen = true ↔ ∃ call, l = .open call := by
  cases l <;> simp [isOpen]

theorem state_eq_connected_iff {l : Link} : l.state = .connected ↔ l.isOpen = true := by
  cases l <;> simp [state, isOpen]

theorem state_ne_error (l : Link) : l.state ≠ .error := by
  cases l <;> simp [state]

theorem state_eq_disconnected_iff {l : Link} : l.state = .disconnected ↔ l = .idle := by
  cases l <;> simp [state]

theorem release_eq_nil {l : Link} (h : l.isOpen = false) : l.release = [] := by
  cases l <;> simp_all [release, isOpen]

end Link

namespace Client

def become (s : Client) (state : State) : List Effect :=
  if s.state = state then [] else [.become state]

def dial (c : Config) (s : Client) : Client :=
  { s with
    link := .waiting (Address.withToken c.url s.token)
    state := .connecting
    keepalive := s.keepalive.stop }

def hangUp (s : Client) : Client :=
  { s with
    link := .idle
    state := .disconnected
    keepalive := s.keepalive.stop
    closing := true
    retry := none }

/-- The client whose call was answered, before it has sent anything. -/
def accept (call : Nat) (s : Client) : Client :=
  { s with link := .open call, attempts := 0, state := .connected }

/-- The client without its attempt or connection, and with another try if there may be one. -/
def lose (c : Config) (now : Nat) (s : Client) : Client :=
  let rest := { s with link := .idle, state := .disconnected, keepalive := s.keepalive.stop }
  if c.backoff.allows s.attempts then
    { rest with
      attempts := s.attempts + 1
      retry := some (now + c.backoff.delayMillis (s.attempts + 1)) }
  else rest

def lossEffects (c : Config) (s : Client) : List Effect :=
  .become .disconnected ::
    if c.backoff.allows s.attempts then [] else [.report (Report.exhausted s.attempts)]

def faultEffects (c : Config) (f : Fault) (s : Client) : List Effect :=
  .report (Report.fault f) :: .become .error :: (s.link.release ++ s.lossEffects c)

@[simp] theorem become_of_ne {s : Client} {state : State} (h : s.state ≠ state) :
    s.become state = [.become state] := by simp [become, h]

@[simp] theorem become_of_eq {s : Client} {state : State} (h : s.state = state) :
    s.become state = [] := by simp [become, h]

theorem faultEffects_of_not_open (c : Config) (f : Fault) {s : Client}
    (h : s.link.isOpen = false) :
    s.faultEffects c f = .report (Report.fault f) :: .become .error :: s.lossEffects c := by
  simp [faultEffects, Link.release_eq_nil h]

@[simp] theorem link_lose (c : Config) (now : Nat) (s : Client) : (s.lose c now).link = .idle := by
  simp only [lose]
  split <;> rfl

@[simp] theorem state_lose (c : Config) (now : Nat) (s : Client) :
    (s.lose c now).state = .disconnected := by
  simp only [lose]
  split <;> rfl

@[simp] theorem keepalive_lose (c : Config) (now : Nat) (s : Client) :
    (s.lose c now).keepalive = s.keepalive.stop := by
  simp only [lose]
  split <;> rfl

@[simp] theorem closing_lose (c : Config) (now : Nat) (s : Client) :
    (s.lose c now).closing = s.closing := by
  simp only [lose]
  split <;> rfl

@[simp] theorem stopped_lose (c : Config) (now : Nat) (s : Client) :
    (s.lose c now).stopped = s.stopped := by
  simp only [lose]
  split <;> rfl

@[simp] theorem topics_lose (c : Config) (now : Nat) (s : Client) :
    (s.lose c now).topics = s.topics := by
  simp only [lose]
  split <;> rfl

@[simp] theorem calls_lose (c : Config) (now : Nat) (s : Client) :
    (s.lose c now).calls = s.calls := by
  simp only [lose]
  split <;> rfl

@[simp] theorem token_lose (c : Config) (now : Nat) (s : Client) :
    (s.lose c now).token = s.token := by
  simp only [lose]
  split <;> rfl

end Client

namespace Turn

theorem become_eq (t : Turn) (state : State) :
    t.become state = ⟨{ t.client with state }, t.effects ++ t.client.become state⟩ := by
  obtain ⟨s, effects⟩ := t
  by_cases h : s.state = state
  · subst h
    simp [become]
  · simp [become, h, update, emit]

theorem release_eq (t : Turn) :
    t.release = ⟨{ t.client with link := .idle }, t.effects ++ t.client.link.release⟩ := by
  obtain ⟨s, effects⟩ := t
  cases h : s.link <;> simp [release, h, update, emit, Link.release]

theorem lost_eq (c : Config) (now : Nat) {t : Turn} (hidle : t.client.link = .idle)
    (hwanted : t.client.closing = false) (hstate : t.client.state ≠ .disconnected) :
    t.lost c now = ⟨t.client.lose c now, t.effects ++ t.client.lossEffects c⟩ := by
  obtain ⟨s, effects⟩ := t
  simp only [lost, become_eq, stopKeepalive, update]
  simp only at hidle hwanted hstate
  rw [if_neg (by simp [hwanted])]
  by_cases h : c.backoff.allows s.attempts = true
  · simp [scheduleRetry, h, update, Client.lose, Client.lossEffects, hstate, hidle]
  · simp [scheduleRetry, h, emit, Client.lose, Client.lossEffects, hstate, hidle]

theorem fail_eq (c : Config) (now : Nat) (f : Fault) {t : Turn}
    (hwanted : t.client.closing = false) (hstate : t.client.state ≠ .error) :
    t.fail c now f = ⟨t.client.lose c now, t.effects ++ t.client.faultEffects c f⟩ := by
  obtain ⟨s, effects⟩ := t
  simp only at hwanted hstate
  have hbecome : ({ s with keepalive := s.keepalive.stop } : Client).become .error =
      [.become .error] := Client.become_of_ne hstate
  simp only [fail, release_eq, become_eq, stopKeepalive, update, emit, hbecome]
  rw [lost_eq c now rfl hwanted (by simp)]
  simp only [Client.faultEffects, Client.lossEffects, List.append_assoc, List.cons_append,
    List.nil_append, mk.injEq, and_true]
  simp only [Client.lose]
  split <;> rfl

theorem refused_eq (c : Config) (now : Nat) (f : Fault) {t : Turn}
    (hopen : t.client.link.isOpen = false) (hwanted : t.client.closing = false)
    (hstate : t.client.state ≠ .error) :
    t.refused c now f = ⟨t.client.lose c now, t.effects ++ t.client.faultEffects c f⟩ := by
  obtain ⟨s, effects⟩ := t
  simp only at hopen hwanted hstate
  have hfail := fail_eq c now f (t := ⟨{ s with link := .idle }, effects⟩) hwanted hstate
  simp only [refused, update, hfail, Client.faultEffects_of_not_open c f hopen]
  rfl

theorem peerClosed_eq (c : Config) (now : Nat) {t : Turn} (hwanted : t.client.closing = false)
    (hstate : t.client.state ≠ .disconnected) :
    t.peerClosed c now = ⟨t.client.lose c now, t.effects ++ t.client.lossEffects c⟩ := by
  obtain ⟨s, effects⟩ := t
  simp only at hwanted hstate
  have hlost := lost_eq c now (t := ⟨{ s with link := .idle }, effects⟩) rfl hwanted hstate
  simp only [peerClosed, update, hlost]
  rfl

theorem disconnect_eq (c : Config) (now : Nat) (t : Turn) :
    t.disconnect c now =
      ⟨t.client.hangUp, t.effects ++ t.client.link.release ++ t.client.become .disconnected⟩ := by
  obtain ⟨s, effects⟩ := t
  simp only [disconnect, lost, become_eq, release_eq, stopKeepalive, update, if_true]
  rfl

theorem beginConnect_eq (c : Config) (t : Turn) :
    t.beginConnect c = ⟨t.client.dial c, t.effects ++ t.client.become .connecting⟩ := by
  simp only [beginConnect, become_eq, stopKeepalive, update]
  rfl

section Sending

variable (c : Config) {m : Moment} {call : Nat} {t : Turn}

theorem send_of_accepted {frame : Frame.Control} (hlink : t.client.link = .open call)
    (hsent : m.refusal frame = none) :
    t.send c m frame = (⟨t.client, t.effects ++ [.send call frame]⟩, true) := by
  simp [send, hlink, hsent, emit]

theorem send_of_refused {frame : Frame.Control} {f : Fault} (hlink : t.client.link = .open call)
    (hrefused : m.refusal frame = some f) (hwanted : t.client.closing = false)
    (hstate : t.client.state ≠ .error) :
    t.send c m frame =
      (⟨t.client.lose c m.now, t.effects ++ t.client.faultEffects c f⟩, false) := by
  simp [send, hlink, hrefused, fail_eq c m.now f hwanted hstate]

/-- Either all frames are sent, or those before the first that is refused. -/
theorem sendAll_cases (frames : List Frame.Control) (hlink : t.client.link = .open call)
    (hwanted : t.client.closing = false) (hstate : t.client.state ≠ .error) :
    ((∀ frame ∈ frames, m.refusal frame = none) ∧
      t.sendAll c m frames = (⟨t.client, t.effects ++ frames.map (.send call)⟩, true)) ∨
    ∃ sent frame unsent f, frames = sent ++ frame :: unsent ∧
      (∀ frame ∈ sent, m.refusal frame = none) ∧ m.refusal frame = some f ∧
      t.sendAll c m frames =
        (⟨t.client.lose c m.now,
          t.effects ++ sent.map (.send call) ++ t.client.faultEffects c f⟩, false) := by
  -- The client does not change while the frames are sent, so the hypotheses on it stay.
  induction frames generalizing t with
  | nil => exact Or.inl ⟨by simp, by simp [sendAll]⟩
  | cons frame frames ih =>
      cases hrefusal : m.refusal frame with
      | some f =>
          refine Or.inr ⟨[], frame, frames, f, rfl, by simp, hrefusal, ?_⟩
          simp [sendAll, send_of_refused c hlink hrefusal hwanted hstate]
      | none =>
          have hsend := send_of_accepted c hlink hrefusal
          rcases ih (t := ⟨t.client, t.effects ++ [.send call frame]⟩) hlink hwanted hstate with
            ⟨hall, heq⟩ | ⟨sent, next, unsent, f, hframes, hsent, hnext, heq⟩
          · refine Or.inl ⟨by simpa [hrefusal] using hall, ?_⟩
            simp [sendAll, hsend, heq]
          · refine Or.inr ⟨frame :: sent, next, unsent, f, by simp [hframes], ?_, hnext, ?_⟩
            · simpa [hrefusal] using hsent
            · simp [sendAll, hsend, heq]

end Sending

end Turn

end EventFeed.Connection
