import EventFeed.Proofs.Connection.ServerView
import EventFeed.Proofs.Connection.Trace

/-!
# From the answer to a call to the end of its connection

`joined` are the connections that a run has brought to the client, and `parted` those that it has
lost, each with how it ended. Both are read off the inputs and the client that takes them;
`joined_eq` compares them with the link, and `closed_eq` with what the client did. So a connection
is lost once, before the next call, and closed exactly if it was not the peer who ended it.
-/

namespace EventFeed.Connection

@[simp] def Effect.closed? : Effect → Option Nat
  | .close call => some call
  | .open .. | .send .. | .become _ | .publish _ | .answer _ | .report _ => none

def closed (effects : List Effect) : List Nat := effects.filterMap Effect.closed?

theorem closed_cons (e : Effect) (effects : List Effect) :
    closed (e :: effects) = e.closed?.toList ++ closed effects := by
  simp only [closed, List.filterMap_cons]
  cases e.closed? <;> rfl

theorem closed_append (first rest : List Effect) :
    closed (first ++ rest) = closed first ++ closed rest :=
  List.filterMap_append

theorem quiet_closed? : Quiet Effect.closed? := ⟨fun _ ↦ rfl, fun _ ↦ rfl⟩

def Link.connection? : Link → Option Nat
  | .open call => some call
  | _ => none

theorem Link.connection?_eq_none {l : Link} (h : l.isOpen = false) : l.connection? = none := by
  cases l <;> simp_all [connection?, isOpen]

theorem Link.connection?_eq_some_iff {l : Link} {call : Nat} :
    l.connection? = some call ↔ l = .open call := by
  cases l <;> simp [connection?]

theorem filterMap_closed?_release (l : Link) :
    l.release.filterMap Effect.closed? = l.connection?.toList := by
  cases l <;> rfl

/-- How a connection ends: somebody wants that, it fails, a frame is not sent on it, or its peer
closes it. -/
inductive Ending where
  | requested
  | failed
  | unsent
  | byPeer
  deriving DecidableEq

namespace Client

def joins (s : Client) : Input → List Nat
  | .opened call =>
    match s.link with
    | .opening n _ => if call = n then [n] else []
    | _ => []
  | _ => []

def ending? (m : Moment) (s : Client) (call : Nat) : Input → Option Ending
  | .command .disconnect => some .requested
  | .command .stop => some .requested
  | .command (.subscribe topic) => (m.refusal (.subscribe topic)).map fun _ ↦ .unsent
  | .command (.unsubscribe topic) => (m.refusal (.unsubscribe topic)).map fun _ ↦ .unsent
  | .failed n _ => if n = call then some .failed else none
  | .closed n => if n = call then some .byPeer else none
  | .ping => if s.keepalive.isDue m.now then (m.refusal .ping).map fun _ ↦ .unsent else none
  | _ => none

/-- The connection that an input ends; one that it brings ends if a topic cannot be sent on it. -/
def parts (m : Moment) (s : Client) (i : Input) : List (Nat × Ending) :=
  match s.link with
  | .open call => ((s.ending? m call i).map (call, ·)).toList
  | .opening call _ =>
    if i = .opened call ∧ ∃ frame ∈ s.topics.replay, m.refusal frame ≠ none then [(call, .unsent)]
    else []
  | _ => []

def joined (c : Config) (inputs : List (Moment × Input)) : List Nat :=
  collect (fun _ s i ↦ s.joins i) c (initial c) inputs

def parted (c : Config) (inputs : List (Moment × Input)) : List (Nat × Ending) :=
  collect (fun m s i ↦ s.parts m i) c (initial c) inputs

/-- The connections among some that have ended otherwise than by their peer. -/
def discarded (ended : List (Nat × Ending)) : List Nat :=
  (ended.filter (·.2 ≠ .byPeer)).map Prod.fst

section Steps

variable {c : Config} {m : Moment} {s s' : Client} {i : Input} {effects : List Effect}

theorem joins_of_opening {call deadline : Nat} (hlink : s.link = .opening call deadline) :
    s.joins (.opened call) = [call] := by
  simp [joins, hlink]

theorem joins_eq_nil (h : ∀ call, i ≠ .opened call) : s.joins i = [] := by
  cases i with
  | opened call => exact absurd rfl (h call)
  | _ => rfl

theorem parts_of_open {call : Nat} (hlink : s.link = .open call) :
    s.parts m i = ((s.ending? m call i).map (call, ·)).toList := by
  simp [parts, hlink]

theorem parts_eq_nil (hopen : s.link.isOpen = false) (h : ∀ call, i ≠ .opened call) :
    s.parts m i = [] := by
  cases hlink : s.link with
  | «open» call => simp [hlink, Link.isOpen] at hopen
  | _ => simp [parts, hlink, h]

/-- A peer ends only the connection that it is said to have closed. -/
theorem eq_closed_of_byPeer {n : Nat} (h : (n, .byPeer) ∈ s.parts m i) : i = .closed n := by
  cases hlink : s.link with
  | «open» call =>
      simp only [parts_of_open hlink, Option.mem_toList, Option.map_eq_some_iff, Prod.mk.injEq] at h
      obtain ⟨e, he, rfl, rfl⟩ := h
      cases i with
      | command command => cases command <;> simp_all [ending?]
      | closed k => simp_all [ending?]
      | _ => simp_all [ending?]
  | _ => simp_all [parts]

/-- What an input does to the connections: which one it brings, which one it ends, and which one
the client closes. -/
structure Handover (m : Moment) (s : Client) (i : Input) (s' : Client) (effects : List Effect) :
    Prop where
  balance : s.link.connection?.toList ++ s.joins i =
    (s.parts m i).map Prod.fst ++ s'.link.connection?.toList
  closed : closed effects = discarded (s.parts m i)

theorem Handover.keep (hjoins : s.joins i = []) (hparts : s.parts m i = [])
    (hlink : s'.link.connection? = s.link.connection?) (hclosed : Connection.closed effects = []) :
    Handover m s i s' effects where
  balance := by rw [hjoins, hparts, hlink, List.append_nil, List.map_nil, List.nil_append]
  closed := by rw [hclosed, hparts]; rfl

theorem Handover.end {call : Nat} {e : Ending} (hlink : s.link = .open call)
    (hending : s.ending? m call i = some e) (hidle : s'.link = .idle)
    (hclosed : Connection.closed effects = discarded [(call, e)]) : Handover m s i s' effects := by
  have hjoins : s.joins i = [] := by
    cases i with
    | opened n => simp [joins, hlink]
    | _ => rfl
  have hparts : s.parts m i = [(call, e)] := by simp [parts, hlink, hending]
  refine ⟨?_, ?_⟩
  · simp [hlink, hjoins, hparts, hidle, Link.connection?]
  · rw [hclosed, hparts]

theorem parts_of_ignored (h : Settled c s) (hi : s.stopped = true ∨ s.Ignores m i) :
    s.parts m i = [] := by
  rcases hi with hstopped | hi
  · simp [parts, (h.closing (h.stopped hstopped)).1]
  · cases hlink : s.link with
    | «open» call =>
        rw [parts_of_open hlink]
        have hother : ∀ n, s.link ≠ .open n → n ≠ call := fun n hn h ↦ hn (h ▸ hlink)
        cases i with
        | command command => cases command <;> simp_all [Ignores, ending?]
        | failed n f => simp [ending?, hother n hi]
        | closed n => simp [ending?, hother n hi]
        | ping => simp_all [Ignores, ending?]
        | _ => rfl
    | opening call deadline =>
        have hne : i ≠ .opened call := by
          rintro rfl
          exact hi deadline hlink
        simp [parts, hlink, hne]
    | _ => simp [parts, hlink]

theorem joins_of_ignored (h : Settled c s) (hi : s.stopped = true ∨ s.Ignores m i) :
    s.joins i = [] := by
  cases i with
  | opened call =>
      cases hlink : s.link with
      | opening n deadline =>
          rcases hi with hstopped | hi
          · simp [(h.closing (h.stopped hstopped)).1] at hlink
          · have hne : call ≠ n := fun hn ↦ hi deadline (hn ▸ hlink)
            simp [joins, hlink, hne]
      | _ => simp [joins, hlink]
  | _ => rfl

theorem closed_faultEffects (c : Config) (f : Fault) (s : Client) :
    closed (s.faultEffects c f) = s.link.connection?.toList := by
  rw [closed, quiet_closed?.filterMap_faultEffects, filterMap_closed?_release]

theorem handover_hangUp (hi : i = .command .disconnect ∨ i = .command .stop)
    (hidle : s'.link = .idle) :
    Handover m s i s' (s.link.release ++ s.become .disconnected) := by
  have hclosed : closed (s.link.release ++ s.become .disconnected) =
      s.link.connection?.toList := by
    rw [closed, List.filterMap_append, quiet_closed?.filterMap_become, filterMap_closed?_release,
      List.append_nil]
  cases hopen : s.link.isOpen with
  | true =>
      obtain ⟨call, hlink⟩ := Link.isOpen_iff.1 hopen
      have hending : s.ending? m call i = some .requested := by rcases hi with rfl | rfl <;> rfl
      refine .end hlink hending hidle ?_
      rw [hclosed, hlink]
      rfl
  | false =>
      have hnone := Link.connection?_eq_none hopen
      have hne : ∀ call, i ≠ .opened call := by rcases hi with rfl | rfl <;> simp
      refine .keep (joins_eq_nil hne) (parts_eq_nil hopen hne) ?_ ?_
      · rw [hidle, hnone]
        rfl
      · rw [hclosed, hnone]
        rfl

theorem handover_fails {f : Fault} (hf : s.Fails c m i f) :
    Handover m s i (s.lose c m.now) (s.faultEffects c f) := by
  have hclosed := closed_faultEffects c f s
  cases hf with
  | refused hlink =>
      refine .keep rfl (by simp [parts, hlink]) (by simp [hlink, Link.connection?]) ?_
      rw [hclosed, hlink]
      rfl
  | expired hlink hdue =>
      refine .keep rfl (by simp [parts, hlink]) (by simp [hlink, Link.connection?]) ?_
      rw [hclosed, hlink]
      rfl
  | failed hlink =>
      refine .end (e := .failed) hlink (by simp [ending?]) (by simp) ?_
      rw [hclosed, hlink]
      rfl
  | unpinged hlink hdue hrefused =>
      refine .end (e := .unsent) hlink (by simp [ending?, hdue, hrefused]) (by simp) ?_
      rw [hclosed, hlink]
      rfl

theorem Wish.ending?_eq {topics after : Topics} {command : Command} {frame : Frame.Control}
    {entry : Telemetry.Entry} (w : Wish topics command after frame entry) (call : Nat) :
    s.ending? m call (.command command) = (m.refusal frame).map fun _ ↦ .unsent := by
  cases w <;> rfl

theorem handover_reaction (h : Settled c s) (r : Reaction c m s i s' effects) :
    Handover m s i s' effects := by
  have hq := quiet_closed?
  cases r with
  | ignored hi => exact .keep (joins_of_ignored h hi) (parts_of_ignored h hi) rfl rfl
  | asked =>
      refine .keep rfl ?_ rfl rfl
      cases hlink : s.link <;> simp [parts, hlink, ending?]
  | dialled hlink =>
      refine .keep rfl (parts_eq_nil hlink (by simp)) ?_ (hq.filterMap_become _ _)
      rw [Link.connection?_eq_none hlink]
      rfl
  | hungUp => exact handover_hangUp (Or.inl rfl) rfl
  | stopped => exact handover_hangUp (Or.inr rfl) rfl
  | noted w hclosed => exact .keep rfl (parts_eq_nil hclosed (by simp)) rfl rfl
  | told w hlink hsent =>
      refine .keep rfl ?_ rfl rfl
      rw [parts_of_open hlink, w.ending?_eq, hsent]
      rfl
  | untold w hlink hrefused =>
      refine .end (e := .unsent) hlink ?_ (by simp) ?_
      · rw [w.ending?_eq, hrefused]
        rfl
      · rw [closed, List.filterMap_append, hq.filterMap_faultEffects, filterMap_closed?_release,
          hlink]
        rfl
  | called hlink =>
      refine .keep rfl (by simp [parts, hlink]) ?_ rfl
      rw [hlink]
      rfl
  | @opened call deadline hlink hsent =>
      have hparts : s.parts m (.opened call) = [] := by
        rw [parts, hlink]
        refine if_neg ?_
        rintro ⟨-, frame, hframe, hrefused⟩
        exact hrefused (hsent frame hframe)
      refine ⟨?_, ?_⟩
      · simp [hlink, hparts, joins_of_opening hlink, Link.connection?, accept]
      · rw [hparts]
        exact filterMap_sent (fun _ ↦ rfl) _
  | @broken call deadline sent unsent frame f hlink hreplay hsent hrefused =>
      have hparts : s.parts m (.opened call) = [(call, .unsent)] := by
        rw [parts, hlink]
        exact if_pos ⟨rfl, frame, by simp [hreplay], by simp [hrefused]⟩
      refine ⟨?_, ?_⟩
      · simp [hlink, hparts, joins_of_opening hlink, Link.connection?]
      · rw [hparts, closed, List.filterMap_append, hq.filterMap_faultEffects,
          filterMap_closed?_release]
        exact congrArg (· ++ [call]) (filterMap_sent (fun _ ↦ rfl) _)
  | failed hfails => exact handover_fails hfails
  | closed hlink =>
      exact .end (e := .byPeer) hlink (by simp [ending?]) (by simp) (hq.filterMap_lossEffects c s)
  | @heard call text hlink =>
      refine .keep rfl (by simp [parts_of_open hlink, ending?]) rfl ?_
      rcases heardEffect_cases text with ⟨event, he⟩ | ⟨entry, he⟩ <;> simp [closed, he]
  | pinged hlink hdue hsent =>
      refine .keep rfl ?_ rfl rfl
      simp [parts_of_open hlink, ending?, hdue, hsent]
  | retried hlink =>
      refine .keep rfl (by simp [parts, hlink]) ?_ rfl
      rw [hlink]
      rfl

theorem handover_step (h : Settled c s) (m : Moment) (i : Input) :
    Handover m s i (s.step c m i).1 (s.step c m i).2 :=
  handover_reaction h (reaction_step h m i)

theorem joins_cases (s : Client) (i : Input) :
    s.joins i = [] ∨ ∃ call deadline, s.link = .opening call deadline ∧ s.joins i = [call] := by
  cases i with
  | opened call =>
      cases hlink : s.link with
      | opening n deadline =>
          by_cases hn : call = n
          · exact Or.inr ⟨n, deadline, rfl, by simp [joins, hlink, hn]⟩
          · exact Or.inl (by simp [joins, hlink, hn])
      | _ => exact Or.inl (by simp [joins, hlink])
  | _ => exact Or.inl rfl

/-- An attempt whose call is made goes on with it until it is answered. -/
theorem opening_reaction (h : Settled c s) (r : Reaction c m s i s' effects) {call deadline : Nat}
    (hlink : s'.link = .opening call deadline) :
    (s.link = .opening call deadline ∧ s.joins i = []) ∨
      (call = s.calls + 1 ∧ s'.calls = call ∧ call ∈ (opens effects).map Prod.fst) := by
  cases r with
  | ignored hi => exact Or.inl ⟨hlink, joins_of_ignored h hi⟩
  | called =>
      cases hlink
      exact Or.inr ⟨rfl, rfl, by simp [opens]⟩
  | noted => exact Or.inl ⟨hlink, rfl⟩
  | told => exact Or.inl ⟨hlink, rfl⟩
  | _ => simp_all [dial, hangUp, accept, joins]

end Steps

section Runs

variable (c : Config)

theorem joined_concat (inputs : List (Moment × Input)) (m : Moment) (i : Input) :
    joined c (inputs ++ [(m, i)]) = joined c inputs ++ (after c inputs).joins i :=
  collect_concat _ c inputs m i

theorem parted_concat (inputs : List (Moment × Input)) (m : Moment) (i : Input) :
    parted c (inputs ++ [(m, i)]) = parted c inputs ++ (after c inputs).parts m i :=
  collect_concat _ c inputs m i

theorem discarded_append (first rest : List (Nat × Ending)) :
    discarded (first ++ rest) = discarded first ++ discarded rest := by
  simp [discarded]

/-- The connections that came are those that went and the one that is there, in this order. -/
theorem joined_eq (inputs : List (Moment × Input)) :
    joined c inputs =
      (parted c inputs).map Prod.fst ++ (after c inputs).link.connection?.toList := by
  induction inputs using List.reverseRecOn with
  | nil => rfl
  | append_singleton inputs input ih =>
      obtain ⟨m, i⟩ := input
      have hstep := (handover_step (settled_after c inputs) m i).balance
      rw [joined_concat, parted_concat, after_concat, ih, List.append_assoc, hstep, List.map_append,
        List.append_assoc]

theorem closed_eq (inputs : List (Moment × Input)) :
    closed (history c inputs) = discarded (parted c inputs) := by
  induction inputs using List.reverseRecOn with
  | nil => rfl
  | append_singleton inputs input ih =>
      obtain ⟨m, i⟩ := input
      have hstep := (handover_step (settled_after c inputs) m i).closed
      rw [closed] at ih hstep
      rw [closed, history_concat, List.filterMap_append, ih, hstep, parted_concat,
        discarded_append]

/-- The numbers of the connections that came, and of the attempt whose call is not answered yet. -/
structure Numbered (c : Config) (inputs : List (Moment × Input)) (s : Client)
    (effects : List Effect) : Prop where
  increasing : (joined c inputs).Pairwise (· < ·)
  called : ∀ n ∈ joined c inputs, n ≤ s.calls ∧ n ∈ (opens effects).map Prod.fst
  opening : ∀ call deadline, s.link = .opening call deadline →
    call ≤ s.calls ∧ call ∈ (opens effects).map Prod.fst ∧ ∀ n ∈ joined c inputs, n < call

theorem numbered_after (inputs : List (Moment × Input)) :
    Numbered c inputs (after c inputs) (history c inputs) := by
  refine after_induction c (motive := Numbered c) ?_ ?_ inputs
  · exact ⟨.nil, by simp [joined], by simp [initial]⟩
  · intro inputs m i s' effects h r _ ih
    have hcalls : (after c inputs).calls ≤ s'.calls := calls_le_reaction r
    have hopens : (opens (history c inputs ++ effects)).map Prod.fst =
        (opens (history c inputs)).map Prod.fst ++ (opens effects).map Prod.fst := by
      simp [opens]
    rcases joins_cases (after c inputs) i with hjoins | ⟨call, deadline, hopening, hjoins⟩
    · have hsame : joined c (inputs ++ [(m, i)]) = joined c inputs := by
        rw [joined_concat, hjoins, List.append_nil]
      refine ⟨hsame ▸ ih.increasing, ?_, ?_⟩
      · intro n hn
        obtain ⟨hle, hmem⟩ := ih.called n (hsame ▸ hn)
        exact ⟨hle.trans hcalls, hopens ▸ List.mem_append_left _ hmem⟩
      · intro call deadline hlink
        rw [hsame, hopens]
        rcases opening_reaction h r hlink with ⟨hbefore, -⟩ | ⟨hcall, hlast, hmem⟩
        · obtain ⟨hle, hmem, hlt⟩ := ih.opening call deadline hbefore
          exact ⟨hle.trans hcalls, List.mem_append_left _ hmem, hlt⟩
        · refine ⟨hlast.ge, List.mem_append_right _ hmem, fun n hn ↦ ?_⟩
          have hle := (ih.called n hn).1
          omega
    · obtain ⟨hle, hmem, hlt⟩ := ih.opening call deadline hopening
      have hmore : joined c (inputs ++ [(m, i)]) = joined c inputs ++ [call] := by
        rw [joined_concat, hjoins]
      refine ⟨?_, ?_, ?_⟩
      · rw [hmore, List.pairwise_append]
        exact ⟨ih.increasing, List.pairwise_singleton _ _, by simpa using hlt⟩
      · intro n hn
        rw [hopens]
        rcases List.mem_append.1 (hmore ▸ hn) with hn | hn
        · obtain ⟨hle, hmem⟩ := ih.called n hn
          exact ⟨hle.trans hcalls, List.mem_append_left _ hmem⟩
        · rw [List.mem_singleton.1 hn]
          exact ⟨hle.trans hcalls, List.mem_append_left _ hmem⟩
      · -- The call that is answered here is not an attempt any more, so this one is a new one.
        intro next time hlink
        rcases opening_reaction h r hlink with ⟨-, hnone⟩ | ⟨hnext, hlast, hmem⟩
        · simp [hnone] at hjoins
        · refine ⟨hlast.ge, hopens ▸ List.mem_append_right _ hmem, fun n hn ↦ ?_⟩
          have hn : n ≤ (after c inputs).calls := by
            rcases List.mem_append.1 (hmore ▸ hn) with hn | hn
            · exact (ih.called n hn).1
            · exact List.mem_singleton.1 hn ▸ hle
          omega

theorem joined_nodup (inputs : List (Moment × Input)) : (joined c inputs).Nodup :=
  (numbered_after c inputs).increasing.imp Nat.ne_of_lt

theorem parted_nodup (inputs : List (Moment × Input)) :
    ((parted c inputs).map Prod.fst).Nodup := by
  have h := joined_nodup c inputs
  rw [joined_eq] at h
  exact h.of_append_left

/-- Of connections that end once each, the client closes those that the peer did not end. -/
theorem count_discarded {ended : List (Nat × Ending)} (h : (ended.map Prod.fst).Nodup)
    {call : Nat} {e : Ending} (he : (call, e) ∈ ended) :
    (discarded ended).count call = if e = .byPeer then 0 else 1 := by
  have hunique : ∀ e', (call, e') ∈ ended → e' = e := fun e' he' ↦ by
    simpa using List.inj_on_of_nodup_map h he' he rfl
  by_cases hpeer : e = .byPeer
  · rw [if_pos hpeer, List.count_eq_zero]
    intro hmem
    obtain ⟨⟨n, e'⟩, he', rfl⟩ := List.mem_map.1 hmem
    have hother : e' ≠ .byPeer := by simpa using (List.mem_filter.1 he').2
    exact hother ((hunique e' (List.mem_filter.1 he').1).trans hpeer)
  · rw [if_neg hpeer]
    have hnodup : (discarded ended).Nodup := h.sublist (List.filter_sublist.map Prod.fst)
    exact List.count_eq_one_of_mem hnodup
      (List.mem_map.2 ⟨(call, e), List.mem_filter.2 ⟨he, by simpa using hpeer⟩, rfl⟩)

/-- A call is made only when all connections that came have gone again. -/
theorem isOpen_of_opens_ne_nil (inputs : List (Moment × Input)) (m : Moment) (i : Input)
    (h : opens ((after c inputs).step c m i).2 ≠ []) :
    (after c inputs).link.isOpen = false ∧ joined c inputs = (parted c inputs).map Prod.fst := by
  have r := reaction_step (settled_after c inputs) m i
  obtain ⟨-, url, hlink, -⟩ := (opens_reaction r).resolve_left h
  refine ⟨by rw [hlink]; rfl, ?_⟩
  rw [joined_eq, hlink]
  exact List.append_nil _

/-- What holds of the connections of a run. They came of calls, each of another one; those that
came are those that went and the one that is there, and at a call none is there. The client has
closed those that went, each once, but for those that their peer ended. -/
structure Tenure (c : Config) (inputs : List (Moment × Input)) : Prop where
  nodup : (joined c inputs).Nodup
  called : ∀ n ∈ joined c inputs, n ∈ (opens (history c inputs)).map Prod.fst
  balance : joined c inputs =
    (parted c inputs).map Prod.fst ++ (after c inputs).link.connection?.toList
  calling : ∀ m i, opens ((after c inputs).step c m i).2 ≠ [] →
    (after c inputs).link.isOpen = false ∧ joined c inputs = (parted c inputs).map Prod.fst
  closes : ∀ n e, (n, e) ∈ parted c inputs →
    (closed (history c inputs)).count n = if e = .byPeer then 0 else 1
  total : closed (history c inputs) = discarded (parted c inputs)

theorem tenure_after (inputs : List (Moment × Input)) : Tenure c inputs where
  nodup := joined_nodup c inputs
  called n hn := ((numbered_after c inputs).called n hn).2
  balance := joined_eq c inputs
  calling := isOpen_of_opens_ne_nil c inputs
  closes n e he := by
    rw [closed_eq]
    exact count_discarded (parted_nodup c inputs) he
  total := closed_eq c inputs

end Runs

end Client

end EventFeed.Connection
