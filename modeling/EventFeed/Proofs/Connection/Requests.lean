import EventFeed.Proofs.Connection.Retries
import EventFeed.Proofs.Connection.ServerView
import EventFeed.Proofs.Connection.Transitions

/-!
# What becomes of a request for a connection

`heeded` are the tokens of the requests that a client goes by, and `abandoned` the calls that it
gave up before they were answered. `tracked_after` ties both to the link: the address of a call is
made with the latest token, and the call that is answered is the latest one. The main result is
`compliant_after`.
-/

namespace EventFeed.Connection

namespace Client

/-- The token of a request that finds no connection. -/
def heeds (s : Client) : Input → List (Option Token)
  | .command (.connect token) => if s.stopped || s.link.isOpen then [] else [token]
  | _ => []

/-- Whether an input ends an attempt without an answer to its call. -/
def cuts (m : Moment) (deadline : Nat) : Input → Bool
  | .command (.connect _) => true
  | .command .disconnect => true
  | .command .stop => true
  | .expired => deadline ≤ m.now
  | _ => false

def abandons (m : Moment) (s : Client) (i : Input) : List Nat :=
  match s.link with
  | .opening call deadline => if cuts m deadline i then [call] else []
  | _ => []

def heeded (c : Config) (inputs : List (Moment × Input)) : List (Option Token) :=
  collect (fun _ s i ↦ s.heeds i) c (initial c) inputs

def abandoned (c : Config) (inputs : List (Moment × Input)) : List Nat :=
  collect (fun m s i ↦ s.abandons m i) c (initial c) inputs

/-- Whether there is an attempt or a connection, or another try is to come. -/
def Engaged (s : Client) : Prop := s.link ≠ .idle ∨ s.retry.isSome = true

section Steps

variable {c : Config} {m : Moment} {s s' : Client} {i : Input} {effects : List Effect}

theorem Wish.heeds_eq_nil {topics topics' : Topics} {command : Command} {frame : Frame.Control}
    {entry : Telemetry.Entry} (w : Wish topics command topics' frame entry) :
    s.heeds (.command command) = [] := by
  cases w <;> rfl

theorem Fails.heeds_eq_nil {f : Fault} (h : s.Fails c m i f) : s.heeds i = [] := by
  cases h <;> rfl

theorem heeds_of_ignored (h : s.stopped = true ∨ s.Ignores m i) : s.heeds i = [] := by
  cases i with
  | command command =>
      cases command with
      | connect token => rcases h with h | h <;> simp_all [heeds, Ignores]
      | _ => rfl
  | _ => rfl

/-- Nothing but a request that is heeded changes the token. -/
theorem heeds_reaction (r : Reaction c m s i s' effects) :
    s.heeds i = [s'.token] ∨ s.heeds i = [] ∧ s'.token = s.token := by
  cases r with
  | dialled hlink hlive => exact Or.inl (by simp [heeds, hlink, hlive, dial])
  | ignored hi => exact Or.inr ⟨heeds_of_ignored hi, rfl⟩
  | noted w => exact Or.inr ⟨w.heeds_eq_nil, rfl⟩
  | told w => exact Or.inr ⟨w.heeds_eq_nil, rfl⟩
  | untold w => exact Or.inr ⟨w.heeds_eq_nil, token_lose c m.now _⟩
  | failed hfails => exact Or.inr ⟨hfails.heeds_eq_nil, token_lose c m.now s⟩
  | _ => exact Or.inr ⟨rfl, by simp [dial, hangUp, accept]⟩

/-- Only a request that is heeded engages a client that was not. -/
theorem engaged_reaction (r : Reaction c m s i s' effects) (hs' : s'.Engaged)
    (hi : s.heeds i = []) : s.Engaged := by
  have hgoing : s.link ≠ .idle → s.Engaged := Or.inl
  cases r with
  | dialled hlink hlive => simp [heeds, hlink, hlive] at hi
  | ignored => exact hs'
  | asked => exact hs'
  | noted => exact hs'
  | told => exact hs'
  | heard => exact hs'
  | pinged => exact hs'
  | hungUp => simp [Engaged, hangUp] at hs'
  | stopped => simp [Engaged, hangUp] at hs'
  | retried hlink htime => exact Or.inr (by simp [htime])
  | failed hfails => exact hgoing hfails.link_ne_idle
  | untold w hlink => exact hgoing (by simp [hlink])
  | called hlink => exact hgoing (by simp [hlink])
  | opened hlink => exact hgoing (by simp [hlink])
  | broken hlink => exact hgoing (by simp [hlink])
  | closed hlink => exact hgoing (by simp [hlink])

theorem waiting_reaction (r : Reaction c m s i s' effects) {url : String}
    (hlink : s'.link = .waiting url) :
    url = Address.withToken c.url s'.token ∨ s.link = .waiting url ∧ s'.token = s.token := by
  cases r with
  | dialled => exact Or.inl (Link.waiting.inj hlink).symm
  | retried => exact Or.inl (Link.waiting.inj hlink).symm
  | ignored => exact Or.inr ⟨hlink, rfl⟩
  | asked => exact Or.inr ⟨hlink, rfl⟩
  | noted => exact Or.inr ⟨hlink, rfl⟩
  | _ => simp_all [hangUp, accept]

theorem abandons_of_not_cuts (h : ∀ deadline, cuts m deadline i = false) :
    s.abandons m i = [] := by
  cases hlink : s.link with
  | opening call deadline => simp [abandons, hlink, h]
  | _ => simp [abandons, hlink]

theorem abandons_of_ignored (h : Settled c s) (hi : s.stopped = true ∨ s.Ignores m i) :
    s.abandons m i = [] := by
  cases hlink : s.link with
  | opening call deadline =>
      have hlive : s.stopped = false := h.stopped_eq_false (by simp [hlink])
      have hignored : s.Ignores m i := hi.resolve_left (by simp [hlive])
      have hcuts : cuts m deadline i = false := by
        cases i with
        | command command => cases command <;> simp_all [Ignores, Link.isOpen]
        | expired => simpa [cuts] using hignored call deadline hlink
        | _ => rfl
      simp [abandons, hlink, hcuts]
  | _ => simp [abandons, hlink]

theorem call?_of_mem_abandons {call : Nat} (hcall : call ∈ s.abandons m i) :
    s.link.call? = some call := by
  cases hlink : s.link with
  | opening n deadline =>
      have hn : call = n := by
        rw [abandons, hlink] at hcall
        by_cases hcuts : cuts m deadline i = true <;> simp_all
      rw [hn]
      rfl
  | _ => simp [abandons, hlink] at hcall

/-- A call that an input leaves at hand is the one that was, or it is made only now. -/
theorem call_reaction (r : Reaction c m s i s' effects) {call : Nat}
    (hcall : s'.link.call? = some call) :
    s.link.call? = some call ∧ opens effects = [] ∨
      call = s.calls + 1 ∧ ∃ url, opens effects = [(call, url)] := by
  have hopens := opens_reaction r
  cases r with
  | called hlink =>
      cases hcall
      exact Or.inr ⟨rfl, _, rfl⟩
  | opened hlink => exact Or.inl ⟨hlink ▸ hcall, hopens.resolve_right (by simp)⟩
  | heard => exact Or.inl ⟨hcall, hopens.resolve_right (by simp)⟩
  | ignored => exact Or.inl ⟨hcall, rfl⟩
  | asked => exact Or.inl ⟨hcall, rfl⟩
  | noted => exact Or.inl ⟨hcall, rfl⟩
  | told => exact Or.inl ⟨hcall, rfl⟩
  | pinged => exact Or.inl ⟨hcall, rfl⟩
  -- The others leave no call at hand.
  | _ => simp [dial, hangUp, Link.call?] at hcall

/-- A call that was made and is not at hand any more does not come to hand again. -/
theorem call?_reaction_ne (r : Reaction c m s i s' effects) {call : Nat} (hmade : call ≤ s.calls)
    (hgone : s.link.call? ≠ some call) : call ≤ s'.calls ∧ s'.link.call? ≠ some call := by
  refine ⟨hmade.trans (calls_le_reaction r), fun hcall ↦ ?_⟩
  rcases call_reaction r hcall with ⟨hbefore, -⟩ | ⟨hnew, -⟩
  · exact hgone hbefore
  · omega

theorem abandons_of_call (h : Settled c s) (r : Reaction c m s i s' effects) {call : Nat}
    (hcall : s'.link.call? = some call) : s.abandons m i = [] := by
  cases r with
  | ignored hi => exact abandons_of_ignored h hi
  | noted w => exact abandons_of_not_cuts fun _ ↦ by cases w <;> rfl
  | told w => exact abandons_of_not_cuts fun _ ↦ by cases w <;> rfl
  | asked => exact abandons_of_not_cuts fun _ ↦ rfl
  | called => exact abandons_of_not_cuts fun _ ↦ rfl
  | opened => exact abandons_of_not_cuts fun _ ↦ rfl
  | heard => exact abandons_of_not_cuts fun _ ↦ rfl
  | pinged => exact abandons_of_not_cuts fun _ ↦ rfl
  | _ => simp [dial, hangUp, Link.call?] at hcall

/-- A client becomes connected by nothing but the answer to its call. -/
theorem opening_of_connected (r : Reaction c m s i s' effects)
    (hconnected : .become .connected ∈ effects) :
    ∃ call deadline, i = .opened call ∧ s.link = .opening call deadline := by
  have hmem : State.connected ∈ transitions effects := List.mem_filterMap.2 ⟨_, hconnected, rfl⟩
  cases r with
  | opened hlink => exact ⟨_, _, rfl, hlink⟩
  | broken hlink => exact ⟨_, _, rfl, hlink⟩
  | @heard call text =>
      rcases heardEffect_cases text with ⟨event, he⟩ | ⟨entry, he⟩ <;> simp [he] at hmem
  | dialled =>
      rw [transitions_become_of] at hmem
      split at hmem <;> simp at hmem
  | hungUp =>
      rw [transitions_append, transitions_release, transitions_become_of] at hmem
      split at hmem <;> simp at hmem
  | stopped =>
      rw [transitions_append, transitions_release, transitions_become_of] at hmem
      split at hmem <;> simp at hmem
  | _ => simp at hmem

/-- An attempt that is under way gives place to a new one with nothing to be seen of it. -/
theorem step_connect_of_opening (h : Settled c s) (hlink : s.link.isOpening = true) (m : Moment)
    (token : Option Token) :
    s.step c m (.command (.connect token)) =
      ({ s with link := .waiting (Address.withToken c.url token), token, attempts := 0 }, []) := by
  have hne : s.link ≠ .idle := by
    intro hidle
    simp [hidle, Link.isOpening] at hlink
  have hclosed : s.link.isOpen = false := by
    cases hl : s.link <;> simp_all [Link.isOpening, Link.isOpen]
  have hstate : s.state = .connecting := by
    rw [h.state]
    cases hl : s.link <;> simp_all [Link.isOpening, Link.state]
  have hstop := Keepalive.stop_eq_self (h.isRunning_eq_false hclosed)
  rw [step_connect h m hclosed (h.stopped_eq_false hne), become_of_eq hstate, dial, hstop,
    ← hstate, ← h.retry_eq_none hne, ← h.closing_eq_false hne]

theorem step_connect_of_open (c : Config) (m : Moment) (hlink : s.link.isOpen = true)
    (token : Option Token) : s.step c m (.command (.connect token)) = (s, []) := by
  obtain ⟨call, hlink⟩ := Link.isOpen_iff.1 hlink
  cases hstopped : s.stopped with
  | true => exact step_of_stopped c m _ hstopped
  | false => simp [step, hstopped, Turn.take, Turn.command, Turn.connect, Turn.ofClient, hlink]

theorem step_of_ne_opening (c : Config) (m : Moment) {call : Nat}
    (hlink : s.link.call? ≠ some call) (hi : i = .opened call ∨ ∃ f, i = .refused call f) :
    s.step c m i = (s, []) := by
  have hne : ∀ deadline, s.link ≠ .opening call deadline := by
    intro deadline hopening
    simp [hopening, Link.call?] at hlink
  cases hstopped : s.stopped with
  | true => exact step_of_stopped c m i hstopped
  | false =>
      simp only [step, hstopped, take_of_ne_opening hi hne]
      rfl

end Steps

section Runs

variable (c : Config)

theorem heeded_concat (inputs : List (Moment × Input)) (m : Moment) (i : Input) :
    heeded c (inputs ++ [(m, i)]) = heeded c inputs ++ (after c inputs).heeds i :=
  collect_concat _ c inputs m i

theorem abandoned_concat (inputs : List (Moment × Input)) (m : Moment) (i : Input) :
    abandoned c (inputs ++ [(m, i)]) = abandoned c inputs ++ (after c inputs).abandons m i :=
  collect_concat _ c inputs m i

/-- What the requests and the calls of a run have to do with the client after it. -/
structure Tracked (c : Config) (inputs : List (Moment × Input)) (s : Client)
    (effects : List Effect) : Prop where
  token : s.Engaged → (heeded c inputs).getLast? = some s.token
  waiting : ∀ url, s.link = .waiting url → url = Address.withToken c.url s.token
  latest : ∀ call, s.link.call? = some call → ∃ url, (opens effects).getLast? = some (call, url)
  abandoned : ∀ call ∈ abandoned c inputs, call ≤ s.calls ∧ s.link.call? ≠ some call

theorem tracked_after (inputs : List (Moment × Input)) :
    Tracked c inputs (after c inputs) (history c inputs) := by
  refine after_induction c (motive := Tracked c) ?_ ?_ inputs
  · exact ⟨by simp [Engaged, initial], by simp [initial], by simp [initial, Link.call?],
      by simp [Client.abandoned]⟩
  · intro inputs m i s' effects h r _ ih
    have hcalls : (after c inputs).calls ≤ s'.calls := calls_le_reaction r
    have hmade := (synced_after c inputs).made
    refine ⟨?_, ?_, ?_, ?_⟩
    · intro hs'
      rw [heeded_concat]
      rcases heeds_reaction r with hheeds | ⟨hheeds, htoken⟩
      · rw [hheeds, List.getLast?_concat]
      · rw [hheeds, List.append_nil, htoken]
        exact ih.token (engaged_reaction r hs' hheeds)
    · intro url hlink
      rcases waiting_reaction r hlink with hurl | ⟨hbefore, htoken⟩
      · exact hurl
      · rw [htoken]
        exact ih.waiting url hbefore
    · intro call hcall
      rw [opens_append]
      rcases call_reaction r hcall with ⟨hbefore, hopens⟩ | ⟨-, url, hopens⟩
      · rw [hopens, List.append_nil]
        exact ih.latest call hbefore
      · exact ⟨url, by rw [hopens, List.getLast?_concat]⟩
    · intro call hmem
      rw [abandoned_concat] at hmem
      rcases List.mem_append.1 hmem with hmem | hmem
      · obtain ⟨hle, hother⟩ := ih.abandoned call hmem
        exact call?_reaction_ne r hle hother
      · refine ⟨(hmade call (call?_of_mem_abandons hmem)).trans hcalls, fun hcall ↦ ?_⟩
        simp [abandons_of_call h r hcall] at hmem

theorem mem_abandoned_append {call : Nat} {inputs : List (Moment × Input)}
    (h : call ∈ abandoned c inputs) (rest : List (Moment × Input)) :
    call ∈ abandoned c (inputs ++ rest) := by
  rw [abandoned, collect_append]
  exact List.mem_append_left _ h

/-- What a run makes of requests for a connection. A call goes to the address with the token of the
latest request that found no connection; one that finds a connection has no part in the run. One
that finds an attempt takes its place, and the call of that attempt, if it was made, is answered in
vain. The answer that connects the client is to the latest call, which was not given up. -/
structure Compliant (c : Config) (inputs : List (Moment × Input)) : Prop where
  address : ∀ m i call url, .open call url ∈ ((after c inputs).step c m i).2 →
    ∃ token, (heeded c inputs).getLast? = some token ∧ url = Address.withToken c.url token
  ignored : (after c inputs).link.isOpen = true → ∀ m token rest,
    (after c inputs).run c ((m, .command (.connect token)) :: rest) = (after c inputs).run c rest
  restarted : (after c inputs).link.isOpening = true → ∀ m token,
    (after c inputs).step c m (.command (.connect token)) =
      ({ after c inputs with
          link := .waiting (Address.withToken c.url token), token, attempts := 0 }, [])
  superseded : ∀ call deadline, (after c inputs).link = .opening call deadline →
    ∀ m token rest m' i, (i = .opened call ∨ ∃ f, i = .refused call f) →
      let s := after c (inputs ++ (m, .command (.connect token)) :: rest)
      s.step c m' i = (s, [])
  answered : ∀ m i, .become .connected ∈ ((after c inputs).step c m i).2 →
    ∃ call url, i = .opened call ∧ (opens (history c inputs)).getLast? = some (call, url) ∧
      call ∉ abandoned c inputs
  connected : ∀ call, (after c inputs).link = .open call →
    (∃ url, (opens (history c inputs)).getLast? = some (call, url)) ∧ call ∉ abandoned c inputs

theorem compliant_after (inputs : List (Moment × Input)) : Compliant c inputs := by
  have h := settled_after c inputs
  have t := tracked_after c inputs
  have hlatest : ∀ call, (after c inputs).link.call? = some call →
      (∃ url, (opens (history c inputs)).getLast? = some (call, url)) ∧
        call ∉ abandoned c inputs :=
    fun call hcall ↦ ⟨t.latest call hcall, fun hmem ↦ (t.abandoned call hmem).2 hcall⟩
  refine ⟨?_, ?_, ?_, ?_, ?_, ?_⟩
  · intro m i call url hopen
    have hmem : (call, url) ∈ opens ((after c inputs).step c m i).2 :=
      List.mem_filterMap.2 ⟨_, hopen, rfl⟩
    rcases opens_reaction (reaction_step h m i) with hnone | ⟨-, url', hlink, hopens⟩
    · simp [hnone] at hmem
    · have hurl : url = url' := by simp_all
      refine ⟨(after c inputs).token, t.token (Or.inl (by simp [hlink])), ?_⟩
      exact hurl ▸ t.waiting url' hlink
  · intro hopen m token rest
    rw [run_cons, step_connect_of_open c m hopen]
    rfl
  · intro hlink m token
    exact step_connect_of_opening h hlink m token
  · intro call deadline hlink m token rest m' i hi
    have hmem : call ∈ abandoned c (inputs ++ [(m, .command (.connect token))]) := by
      rw [abandoned_concat]
      exact List.mem_append_right _ (by simp [abandons, hlink, cuts])
    have hlater := mem_abandoned_append c hmem rest
    rw [List.append_assoc] at hlater
    exact step_of_ne_opening c m' ((tracked_after c _).abandoned call hlater).2 hi
  · intro m i hconnected
    obtain ⟨call, deadline, hi, hlink⟩ := opening_of_connected (reaction_step h m i) hconnected
    obtain ⟨⟨url, hlast⟩, hkept⟩ := hlatest call (by rw [hlink]; rfl)
    exact ⟨call, url, hi, hlast, hkept⟩
  · intro call hlink
    exact hlatest call (by rw [hlink]; rfl)

/-- The second request finds the call of the first one without an answer. -/
def restarting : List (Moment × Input) :=
  [(.clear 0, .command (.connect (some ⟨"a"⟩))), (.clear 0, .begin),
    (.clear 0, .command (.connect (some ⟨"b"⟩))), (.clear 0, .begin)]

theorem restarting_is_answered_once :
    abandoned .default restarting = [1] ∧
      (after .default restarting).step .default (.clear 0) (.opened 1) =
        (after .default restarting, []) ∧
      ∃ url, (opens (history .default restarting)).getLast? = some (2, url) := by
  have hlink : (after .default (restarting.take 2)).link = .opening 1 10000 := by decide
  have hconnected : .become .connected ∈
      ((after .default restarting).step .default (.clear 0) (.opened 2)).2 := .head _
  have hlate := (compliant_after .default (restarting.take 2)).superseded 1 _ hlink
    (.clear 0) (some ⟨"b"⟩) [(.clear 0, .begin)] (.clear 0) (.opened 1) (Or.inl rfl)
  obtain ⟨call, url, hi, hlast, -⟩ :=
    (compliant_after .default restarting).answered (.clear 0) (.opened 2) hconnected
  cases hi
  exact ⟨by decide, hlate, url, hlast⟩

end Runs

end Client

end EventFeed.Connection
