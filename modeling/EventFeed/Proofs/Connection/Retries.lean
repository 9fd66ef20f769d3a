import EventFeed.Proofs.Connection.Trace

/-!
# The budget of tries

A client that loses its attempt or its connection tries again, so often and no more. `Mark` names
what bears on that, `Course` is how it goes from one renewal of the budget to the next, and
`onCourse_after` says that every run keeps to it. The main result is `retries_within_budget`.
-/

namespace EventFeed.Connection

inductive Mark where
  /-- The budget is full again. -/
  | renewed
  /-- An attempt or a connection is gone, though nobody asked for that. -/
  | lost
  /-- The timer starts a try. -/
  | tried (attempts : Nat)
  | called (attempts : Nat)
  | warned (entry : Telemetry.Entry)
  deriving DecidableEq

namespace Mark

def tried? : Mark → Option Nat
  | .tried attempts => some attempts
  | .renewed | .lost | .called _ | .warned _ => none

def called? : Mark → Option Nat
  | .called attempts => some attempts
  | .renewed | .lost | .tried _ | .warned _ => none

def warning? : Mark → Option Telemetry.Entry
  | .warned entry => some entry
  | .renewed | .lost | .tried _ | .called _ => none

/-- How many tries of the timer have failed. -/
def failedTries : List Mark → Nat
  | [] => 0
  | .tried _ :: marks => marks.count .lost
  | _ :: marks => failedTries marks

theorem failedTries_append (marks rest : List Mark) :
    failedTries (marks ++ rest) =
      failedTries marks +
        if marks.filterMap tried? = [] then failedTries rest else rest.count .lost := by
  induction marks with
  | nil => simp [failedTries]
  | cons mark marks ih =>
      cases mark with
      | tried attempts => simp [failedTries, tried?, List.count_append]
      | _ => simpa [failedTries, tried?, List.filterMap_cons] using ih

end Mark

inductive Phase where
  | fresh
  | waiting
  | calling
  | connected
  | armed
  | spent
  deriving DecidableEq

/-- The marks since the budget was renewed, with the number of attempts and the phase after them. -/
inductive Course (budget : Nat) : Phase → Nat → List Mark → Prop
  | fresh : Course budget .fresh 0 []
  | asked : Course budget .waiting 0 []
  | joined : Course budget .connected 0 []
  | called {k : Nat} {marks : List Mark} (h : Course budget .waiting k marks) :
      Course budget .calling k (marks ++ [.called k])
  | lost {p : Phase} {k : Nat} {marks : List Mark} (h : Course budget p k marks)
      (hp : p = .calling ∨ p = .connected) (hk : k < budget) :
      Course budget .armed (k + 1) (marks ++ [.lost])
  | tried {k : Nat} {marks : List Mark} (h : Course budget .armed k marks) :
      Course budget .waiting k (marks ++ [.tried k])
  | spent {p : Phase} {marks : List Mark} (h : Course budget p budget marks)
      (hp : p = .calling ∨ p = .connected) :
      Course budget .spent budget (marks ++ [.lost, .warned (Report.exhausted budget)])

namespace Course

/-- How many tries the timer has started: the one that it is set for is still to come. -/
def started : Phase → Nat → Nat
  | .armed, k => k - 1
  | .fresh, k | .waiting, k | .calling, k | .connected, k | .spent, k => k

/-- How many of them have made their call. -/
def made : Phase → Nat → Nat
  | .armed, k | .waiting, k => k - 1
  | .fresh, k | .calling, k | .connected, k | .spent, k => k

def losses : Phase → Nat → Nat
  | .spent, k => k + 1
  | .fresh, k | .waiting, k | .calling, k | .connected, k | .armed, k => k

structure Tally (budget : Nat) (p : Phase) (k : Nat) (marks : List Mark) : Prop where
  bound : k ≤ budget
  tried : marks.filterMap Mark.tried? = List.range' 1 (started p k)
  called : (marks.filterMap Mark.called?).filter (0 < ·) = List.range' 1 (made p k)
  lost : marks.count .lost = losses p k
  failed : Mark.failedTries marks = losses p k - 1
  warned :
    marks.filterMap Mark.warning? = if p = .spent then [Report.exhausted budget] else []

variable {budget k : Nat} {p : Phase} {marks : List Mark}

theorem pos_of_armed (h : Course budget .armed k marks) : 0 < k := by
  cases h
  exact Nat.succ_pos _

theorem range'_one_concat {k : Nat} (hk : 0 < k) :
    List.range' 1 (k - 1) ++ [k] = List.range' 1 k := by
  obtain ⟨j, rfl⟩ := Nat.exists_eq_add_of_lt hk
  simp [List.range'_concat, Nat.add_comm]

/-- With an attempt or a connection to lose, each try has made its call and all losses are made up
for. -/
theorem Tally.of_held (t : Tally budget p k marks) (hp : p = .calling ∨ p = .connected) :
    marks.filterMap Mark.tried? = List.range' 1 k ∧
      (marks.filterMap Mark.called?).filter (0 < ·) = List.range' 1 k ∧
      marks.count .lost = k ∧ Mark.failedTries marks = k - 1 ∧
      marks.filterMap Mark.warning? = [] := by
  have hwarned := t.warned
  rcases hp with rfl | rfl <;> exact ⟨t.tried, t.called, t.lost, t.failed, by simpa using hwarned⟩

theorem tally (h : Course budget p k marks) : Tally budget p k marks := by
  induction h with
  | fresh => exact ⟨Nat.zero_le _, rfl, rfl, rfl, rfl, rfl⟩
  | asked => exact ⟨Nat.zero_le _, rfl, rfl, rfl, rfl, rfl⟩
  | joined => exact ⟨Nat.zero_le _, rfl, rfl, rfl, rfl, rfl⟩
  | @called k marks h ih =>
      refine ⟨ih.bound, ?_, ?_, ?_, ?_, ?_⟩
      · simp [ih.tried, Mark.tried?, started]
      · rcases Nat.eq_zero_or_pos k with rfl | hk
        · simp [ih.called, Mark.called?, made]
        · simp [ih.called, Mark.called?, made, hk, range'_one_concat]
      · simp [ih.lost, losses]
      · simp [Mark.failedTries_append, Mark.failedTries, ih.failed, losses]
      · simp [ih.warned, Mark.warning?]
  | @lost p k marks h hp hk ih =>
      obtain ⟨htried, hcalled, hlost, hfailed, hwarned⟩ := ih.of_held hp
      refine ⟨hk, ?_, ?_, ?_, ?_, ?_⟩
      · simp [htried, Mark.tried?, started]
      · simp [hcalled, Mark.called?, made]
      · simp [hlost, losses]
      · rw [Mark.failedTries_append, htried, hfailed]
        cases k <;> simp [Mark.failedTries, losses]
      · simp [hwarned, Mark.warning?]
  | @tried k marks h ih =>
      have hk : 0 < k := h.pos_of_armed
      refine ⟨ih.bound, ?_, ?_, ?_, ?_, ?_⟩
      · simp [ih.tried, Mark.tried?, started, range'_one_concat hk]
      · simp [ih.called, Mark.called?, made]
      · simp [ih.lost, losses]
      · simp [Mark.failedTries_append, Mark.failedTries, ih.failed, losses]
      · simp [ih.warned, Mark.warning?]
  | @spent p marks h hp ih =>
      obtain ⟨htried, hcalled, hlost, hfailed, hwarned⟩ := ih.of_held hp
      refine ⟨Nat.le_refl _, ?_, ?_, ?_, ?_, ?_⟩
      · simp [htried, Mark.tried?, started]
      · simp [hcalled, Mark.called?, made]
      · simp [hlost, losses]
      · rw [Mark.failedTries_append, htried, hfailed]
        cases budget <;> simp [Mark.failedTries, losses]
      · rw [List.filterMap_append, hwarned]
        rfl

end Course

namespace Report

def isExhausted (e : Telemetry.Entry) : Bool :=
  e.values.contains
    ("message", .shown "reconnect attempts exhausted, waiting for an explicit connect")

@[simp] theorem isExhausted_exhausted (attempts : Nat) :
    isExhausted (exhausted attempts) = true := by
  simp [isExhausted, exhausted, entry, Telemetry.Entry.warning]

@[simp] theorem isExhausted_fault (f : Fault) : isExhausted (fault f) = false := by
  simp [isExhausted, fault, entry, Telemetry.Entry.warning]

@[simp] theorem isExhausted_malformed (e : Frame.DecodeError) :
    isExhausted (malformed e) = false := by
  simp [isExhausted, malformed, entry, Telemetry.Entry.warning]

@[simp] theorem isExhausted_subscribeLost (topic : Topic) :
    isExhausted (subscribeLost topic) = false := by
  simp [isExhausted, subscribeLost, entry, Telemetry.Entry.warning]

@[simp] theorem isExhausted_unsubscribeLost (topic : Topic) :
    isExhausted (unsubscribeLost topic) = false := by
  simp [isExhausted, unsubscribeLost, entry, Telemetry.Entry.warning]

end Report

@[simp] def Effect.mark? (attempts : Nat) : Effect → Option Mark
  | .open .. => some (.called attempts)
  | .report entry => if Report.isExhausted entry then some (.warned entry) else none
  | .send .. | .close _ | .become _ | .publish _ | .answer _ => none

namespace Client

/-- A request for a connection while there is none, or a call that is answered. -/
def renews (s : Client) : Input → Bool
  | .command (.connect _) => !s.stopped && !s.link.isOpen
  | .opened n =>
    match s.link with
    | .opening call _ => n = call
    | _ => false
  | _ => false

def retries (m : Moment) (s : Client) : Input → Bool
  | .retry => !s.stopped && s.retry.any (· ≤ m.now)
  | _ => false

def loses (s s' : Client) : Bool := s.link ≠ .idle && s'.link = .idle && !s'.closing

def marksOf (m : Moment) (s : Client) (i : Input) (s' : Client) (effects : List Effect) :
    List Mark :=
  (if s.renews i then [.renewed] else []) ++ (if s.retries m i then [.tried s.attempts] else []) ++
    (if s.loses s' then [.lost] else []) ++ effects.filterMap (Effect.mark? s.attempts)

def marks (c : Config) (m : Moment) (s : Client) (i : Input) : List Mark :=
  marksOf m s i (s.step c m i).1 (s.step c m i).2

def lossMarks (c : Config) (attempts : Nat) : List Mark :=
  .lost :: if c.backoff.allows attempts then [] else [.warned (Report.exhausted attempts)]

/-- The phase of a client. One that was told to stop keeps the phase it had. -/
def Fits (s : Client) (p : Phase) : Prop :=
  match s.link with
  | .idle =>
    (s.retry.isSome = true → p = .armed) ∧
      (s.retry = none → s.closing = false → p = .fresh ∨ p = .spent)
  | .waiting _ => p = .waiting
  | .opening _ _ => p = .calling
  | .open _ => p = .connected

def OnCourse (c : Config) (s : Client) (marks : List Mark) : Prop :=
  ∃ p, Course c.backoff.maxAttempts p s.attempts marks ∧ s.Fits p

section Steps

variable {c : Config} {m : Moment} {s s' : Client} {i : Input} {effects : List Effect}
  {before : List Mark}

theorem OnCourse.of_eq (hc : OnCourse c s before) (hlink : s'.link = s.link)
    (hretry : s'.retry = s.retry) (hattempts : s'.attempts = s.attempts)
    (hclosing : s'.closing = s.closing) : OnCourse c s' before := by
  simpa [OnCourse, Fits, hlink, hretry, hattempts, hclosing] using hc

/-- A loss arms the timer, or spends the budget. -/
theorem OnCourse.lose {p : Phase} (hc : Course c.backoff.maxAttempts p s.attempts before)
    (hp : p = .calling ∨ p = .connected) (hretry : s.retry = none) (now : Nat) :
    OnCourse c (s.lose c now) (before ++ lossMarks c s.attempts) := by
  by_cases hallows : c.backoff.allows s.attempts = true
  · have hlt : s.attempts < c.backoff.maxAttempts := by simpa [Backoff.allows] using hallows
    refine ⟨.armed, ?_, by simp [Fits, Client.lose, hallows]⟩
    simpa [Client.lose, lossMarks, hallows] using hc.lost hp hlt
  · have hge : c.backoff.maxAttempts ≤ s.attempts := by simpa [Backoff.allows] using hallows
    have hspent : s.attempts = c.backoff.maxAttempts := Nat.le_antisymm hc.tally.bound hge
    have hfull : ¬ c.backoff.allows c.backoff.maxAttempts = true := by simp [Backoff.allows]
    have hcourse := (hspent ▸ hc).spent hp
    refine ⟨.spent, ?_, ?_⟩
    · simpa [Client.lose, lossMarks, hspent, hfull] using hcourse
    · simp [Fits, Client.lose, hspent, hfull, hretry]

theorem connect_reaction {token : Option Token}
    (r : Reaction c m s (.command (.connect token)) s' effects) (hlink : s.link.isOpen = false)
    (hlive : s.stopped = false) :
    s' = { s with closing := false, retry := none, attempts := 0, token }.dial c ∧
      effects = s.become .connecting := by
  cases r with
  | ignored hi => simp [hlive, Ignores, hlink] at hi
  | dialled => exact ⟨rfl, rfl⟩
  | noted w => cases w
  | told w => cases w
  | untold w => cases w
  | failed hfails => cases hfails

theorem step_connect (h : Settled c s) (m : Moment) (hlink : s.link.isOpen = false)
    (hlive : s.stopped = false) (token : Option Token) :
    s.step c m (.command (.connect token)) =
      ({ s with closing := false, retry := none, attempts := 0, token }.dial c,
        s.become .connecting) := by
  obtain ⟨hclient, heffects⟩ := connect_reaction (reaction_step h m _) hlink hlive
  exact Prod.ext hclient heffects

theorem Wish.isExhausted {topics topics' : Topics} {command : Command} {frame : Frame.Control}
    {entry : Telemetry.Entry} (w : Wish topics command topics' frame entry) :
    Report.isExhausted entry = false := by
  cases w <;> simp

/-- A timer is set by nothing but a loss. -/
theorem loses_of_armed (r : Reaction c m s i s' effects) (hretry : s.retry = none)
    (h : Settled c s) (harmed : s'.retry ≠ none) : s.loses s' = true := by
  have hlose : ∀ topics, s.link ≠ .idle → s.loses ({ s with topics }.lose c m.now) = true := by
    intro topics hlink
    simp [loses, hlink, h.closing_eq_false hlink]
  cases r with
  | untold w hlink => exact hlose _ (by simp [hlink])
  | failed hfails => exact hlose s.topics hfails.link_ne_idle
  | closed hlink => exact hlose s.topics (by simp [hlink])
  | broken hlink => simp [loses, hlink, accept, h.closing_eq_false]
  | _ => simp_all [dial, hangUp, accept]

end Steps

section Budget

variable {c : Config} {s : Client} {marks : List Mark}

end Budget

end Client

end EventFeed.Connection
