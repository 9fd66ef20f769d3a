import EventFeed.Proofs.Connection.Requests
import EventFeed.Proofs.Connection.Timing
import Mathlib.Data.List.Basic

/-!
# When pings are sent

In a timed run the pings of a connection are on the beat of its keepalive: one full period after
the connection came, and then every period for as long as it lasts. `Lifetime` says from when to
when that is, and `beats` are the times in it. A timer is started for each connection anew and does
not run without one, so `OnBeat` leaves nothing that another connection could have a part in.
-/

namespace EventFeed.Connection

/-- The first beats of a timer that starts at the given time. -/
def beats (start period n : Nat) : List Nat := (List.range n).map fun k ↦ start + (k + 1) * period

def pingsOn (call : Nat) (effects : List Effect) : List Frame.Control :=
  (sentOn call effects).filter (· = .ping)

section Beats

variable (start period : Nat)

theorem beats_succ (n : Nat) :
    beats start period (n + 1) = beats start period n ++ [start + (n + 1) * period] := by
  simp [beats, List.range_succ]

/-- Beats to come do not change what is before them. -/
theorem filter_beats_add {stop n : Nat} (hstop : stop ≤ start + (n + 1) * period) (more : Nat) :
    (beats start period (n + more)).filter (· < stop) =
      (beats start period n).filter (· < stop) := by
  induction more with
  | zero => rfl
  | succ more ih =>
      have hle : (n + 1) * period ≤ (n + more + 1) * period :=
        Nat.mul_le_mul_right period (by omega)
      have hlate : ¬ start + (n + more + 1) * period < stop := by omega
      rw [← Nat.add_assoc, beats_succ, List.filter_append, ih]
      simp [hlate]

theorem filter_beats_eq {stop n n' : Nat} (hn : stop ≤ start + (n + 1) * period)
    (hn' : stop ≤ start + (n' + 1) * period) :
    (beats start period n).filter (· < stop) = (beats start period n').filter (· < stop) := by
  rcases Nat.le_total n n' with hle | hle
  · obtain ⟨more, rfl⟩ := Nat.exists_eq_add_of_le hle
    rw [filter_beats_add start period hn]
  · obtain ⟨more, rfl⟩ := Nat.exists_eq_add_of_le hle
    rw [filter_beats_add start period hn']

end Beats

section PingsOn

variable {call : Nat}

@[simp] theorem pingsOn_sent_ping (n : Nat) :
    pingsOn call [.send n .ping] = if n = call then [.ping] else [] := by
  by_cases h : n = call <;> simp [pingsOn, h]

theorem pingsOn_eq_nil {effects : List Effect} (h : .ping ∉ sentOn call effects) :
    pingsOn call effects = [] :=
  List.filter_eq_nil_iff.2 fun _ hframe hping ↦ h (of_decide_eq_true hping ▸ hframe)

theorem ping_not_mem_sentOn {frames : List Frame.Control} (h : .ping ∉ frames) (n : Nat) :
    .ping ∉ sentOn call (frames.map (.send n)) := by
  by_cases hn : n = call <;> simp [sentOn_sent, hn, h]

end PingsOn

theorem Topics.ping_not_mem_replay (topics : Topics) : .ping ∉ topics.replay := by
  intro hping
  obtain ⟨topic, -, htopic⟩ := mem_replay.1 hping
  simp [Frame.Control.ping, Frame.Control.subscribe] at htopic

namespace Client

/-- When the inputs of a run send pings on a connection. -/
def pingTimes (c : Config) (call : Nat) (inputs : List (Moment × Input)) : List Nat :=
  collect (fun m s i ↦ (pingsOn call (s.step c m i).2).map fun _ ↦ m.now) c (initial c) inputs

/-- The connection came at the given time and has been there since. -/
inductive OpenFrom (c : Config) (call start : Nat) : List (Moment × Input) → Prop
  | came {before : List (Moment × Input)} {m : Moment} {i : Input}
      (hnew : (after c before).link ≠ .open call)
      (hopen : (after c (before ++ [(m, i)])).link = .open call) (hnow : m.now = start) :
      OpenFrom c call start (before ++ [(m, i)])
  | stayed {before : List (Moment × Input)} {m : Moment} {i : Input}
      (h : OpenFrom c call start before)
      (hopen : (after c (before ++ [(m, i)])).link = .open call) :
      OpenFrom c call start (before ++ [(m, i)])

/-- From when to when a run has a connection, up to what the clock shows after it. -/
inductive Lifetime (c : Config) (call start : Nat) (inputs : List (Moment × Input)) (now : Nat) :
    Nat → Prop
  | going (h : OpenFrom c call start inputs) : Lifetime c call start inputs now now
  | ended {before rest : List (Moment × Input)} {m : Moment} {i : Input}
      (hinputs : inputs = before ++ (m, i) :: rest) (h : OpenFrom c call start before)
      (hgone : (after c (before ++ [(m, i)])).link ≠ .open call) :
      Lifetime c call start inputs now m.now

/-- Pings were sent on the first beats of a connection, and its timer is set for the next. -/
structure Beating (c : Config) (call start period n : Nat) (inputs : List (Moment × Input)) :
    Prop where
  sent : pingTimes c call inputs = beats start period n
  next : (after c inputs).keepalive.next = some (start + (n + 1) * period)

section Steps

variable {c : Config} {m : Moment} {s s' : Client} {i : Input} {effects : List Effect} {call : Nat}

/-- A ping is sent by its timer alone, on the connection there is. -/
theorem pingsOn_reaction (r : Reaction c m s i s' effects) (call : Nat) :
    pingsOn call effects = [] ∨
      s.link = .open call ∧ s'.link = .open call ∧ s.keepalive.isDue m.now = true ∧
        s'.keepalive = s.keepalive.tick m.now ∧ pingsOn call effects = [.ping] := by
  cases r with
  | @pinged n hlink hdue =>
      by_cases hn : n = call
      · exact .inr ⟨hn ▸ hlink, hn ▸ hlink, hdue, rfl, by simp [hn]⟩
      · exact .inl (by simp [hn])
  | @opened n =>
      have hsent : .ping ∉ sentOn call (s.topics.replay.map (.send n)) :=
        ping_not_mem_sentOn s.topics.ping_not_mem_replay n
      exact .inl (pingsOn_eq_nil (by simpa using hsent))
  | @broken n deadline sent unsent frame f hlink hreplay =>
      have hnone : .ping ∉ sent := fun hping ↦
        s.topics.ping_not_mem_replay (hreplay ▸ List.mem_append_left _ hping)
      have hsent : .ping ∉ sentOn call (sent.map (.send n)) := ping_not_mem_sentOn hnone n
      exact .inl (pingsOn_eq_nil (by simpa using hsent))
  | @told _ _ frame _ n w =>
      have hnone : .ping ∉ [frame] := by
        cases w <;> simp [Frame.Control.ping, Frame.Control.subscribe, Frame.Control.unsubscribe]
      exact .inl (pingsOn_eq_nil (ping_not_mem_sentOn hnone n))
  | heard =>
      refine .inl (pingsOn_eq_nil ?_)
      rw [sentOn_heardEffect]
      exact List.not_mem_nil
  | _ => exact .inl (pingsOn_eq_nil (by simp))

/-- A connection comes of the answer to its call, once all topics are told, and starts the timer. -/
theorem opened_reaction (r : Reaction c m s i s' effects) (hnew : s.link ≠ .open call)
    (hopen : s'.link = .open call) :
    (∃ deadline, s.link = .opening call deadline) ∧ i = .opened call ∧
      sentOn call effects = s.topics.replay ∧ s'.keepalive = s.keepalive.start m.now := by
  cases r with
  | @opened n deadline hlink =>
      obtain rfl : n = call := Link.open.inj hopen
      exact ⟨⟨deadline, hlink⟩, rfl, by simp [sentOn_sent], rfl⟩
  | ignored => exact absurd hopen hnew
  | asked => exact absurd hopen hnew
  | noted => exact absurd hopen hnew
  | told => exact absurd hopen hnew
  | heard => exact absurd hopen hnew
  | pinged => exact absurd hopen hnew
  | _ => simp [dial, hangUp] at hopen

/-- On a connection that stays the timer is as it was unless it sends a ping. -/
theorem keepalive_reaction (r : Reaction c m s i s' effects) (hbefore : s.link = .open call)
    (hopen : s'.link = .open call) (hnone : pingsOn call effects = []) :
    s'.keepalive = s.keepalive := by
  cases r with
  | opened hlink => simp [hlink] at hbefore
  | pinged hlink =>
      obtain rfl := Link.open.inj (hlink.symm.trans hbefore)
      simp at hnone
  | ignored => rfl
  | asked => rfl
  | noted => rfl
  | told => rfl
  | heard => rfl
  | _ => simp [dial, hangUp] at hopen

theorem call?_reaction_of_open (r : Reaction c m s i s' effects) (hopen : s.link = .open call) :
    s'.link = .open call ∨ s'.link.call? = none := by
  cases r <;> simp_all [dial, hangUp, Link.call?]

end Steps

section Runs

variable {c : Config} {m : Moment} {i : Input} {inputs before rest : List (Moment × Input)}
  {call start stop origin now period n : Nat}

theorem pingTimes_concat (c : Config) (call : Nat) (inputs : List (Moment × Input)) (m : Moment)
    (i : Input) :
    pingTimes c call (inputs ++ [(m, i)]) = pingTimes c call inputs ++
      (pingsOn call ((after c inputs).step c m i).2).map fun _ ↦ m.now :=
  collect_concat _ c inputs m i

theorem length_pingTimes (c : Config) (call : Nat) (inputs : List (Moment × Input)) :
    (pingTimes c call inputs).length = (pingsOn call (history c inputs)).length := by
  induction inputs using List.reverseRecOn with
  | nil => rfl
  | append_singleton inputs x ih =>
      obtain ⟨m, i⟩ := x
      simp [pingTimes_concat, history_concat, pingsOn, ih]

theorem pingTimes_eq_nil (h : sentOn call (history c inputs) = []) :
    pingTimes c call inputs = [] := by
  rw [← List.length_eq_zero_iff, length_pingTimes, pingsOn, h]
  rfl

theorem OpenFrom.link (h : OpenFrom c call start inputs) :
    (after c inputs).link = .open call := by
  cases h with
  | came _ hopen => exact hopen
  | stayed _ hopen => exact hopen

theorem not_openFrom_nil : ¬ OpenFrom c call start [] := fun h ↦ nomatch h.link

theorem openFrom_concat_iff : OpenFrom c call start (inputs ++ [(m, i)]) ↔
    (after c (inputs ++ [(m, i)])).link = .open call ∧
      (OpenFrom c call start inputs ∨ (after c inputs).link ≠ .open call ∧ m.now = start) := by
  constructor
  · generalize hinputs : inputs ++ [(m, i)] = all
    rintro (⟨hnew, hopen, hnow⟩ | ⟨h, hopen⟩)
    · obtain ⟨rfl, ⟨⟩⟩ := List.append_inj' hinputs rfl
      exact ⟨hopen, .inr ⟨hnew, hnow⟩⟩
    · obtain ⟨rfl, ⟨⟩⟩ := List.append_inj' hinputs rfl
      exact ⟨hopen, .inl h⟩
  · rintro ⟨hopen, h | ⟨hnew, hnow⟩⟩
    · exact .stayed h hopen
    · exact .came hnew hopen hnow

theorem exists_openFrom (hopen : (after c inputs).link = .open call) :
    ∃ start, OpenFrom c call start inputs := by
  induction inputs using List.reverseRecOn with
  | nil => cases hopen
  | append_singleton inputs x ih =>
      obtain ⟨m, i⟩ := x
      by_cases hbefore : (after c inputs).link = .open call
      · obtain ⟨start, h⟩ := ih hbefore
        exact ⟨start, .stayed h hopen⟩
      · exact ⟨m.now, .came hbefore hopen rfl⟩

/-- A connection that has gone does not come back. -/
theorem call?_append_ne (hmade : call ≤ (after c before).calls)
    (hgone : (after c before).link.call? ≠ some call) (rest : List (Moment × Input)) :
    call ≤ (after c (before ++ rest)).calls ∧
      (after c (before ++ rest)).link.call? ≠ some call := by
  induction rest using List.reverseRecOn with
  | nil => simpa using ⟨hmade, hgone⟩
  | append_singleton rest x ih =>
      obtain ⟨m, i⟩ := x
      obtain ⟨hle, hne⟩ := ih
      rw [← List.append_assoc, after_concat]
      exact call?_reaction_ne (reaction_step (settled_after c (before ++ rest)) m i) hle hne

theorem pingTimes_append (hmade : call ≤ (after c before).calls)
    (hgone : (after c before).link.call? ≠ some call) (rest : List (Moment × Input)) :
    pingTimes c call (before ++ rest) = pingTimes c call before := by
  induction rest using List.reverseRecOn with
  | nil => rw [List.append_nil]
  | append_singleton rest x ih =>
      obtain ⟨m, i⟩ := x
      have hne := (call?_append_ne hmade hgone rest).2
      have hnone := sentOn_reaction_of_ne (reaction_step (settled_after c _) m i) hne
      rw [← List.append_assoc, pingTimes_concat, ih, pingsOn, hnone, List.filter_nil, List.map_nil,
        List.append_nil]

/-- The input that ends a connection sends no ping on it, and nor does any later one. -/
theorem pingTimes_append_of_gone (hopen : (after c before).link = .open call)
    (hgone : (after c (before ++ [(m, i)])).link ≠ .open call) (rest : List (Moment × Input)) :
    pingTimes c call (before ++ (m, i) :: rest) = pingTimes c call before := by
  have r := reaction_step (settled_after c before) m i
  rw [← after_concat] at r
  have hmade := (synced_after c before).made call (by rw [hopen]; rfl)
  have hnocall := (call?_reaction_of_open r hopen).resolve_left hgone
  have hnone := (pingsOn_reaction r call).resolve_right fun hping ↦ hgone hping.2.1
  rw [List.append_cons, pingTimes_append (hmade.trans (calls_le_reaction r)) (by simp [hnocall]),
    pingTimes_concat, hnone, List.map_nil, List.append_nil]

theorem Timed.of_append {s : Client} (h : Timed c s origin (before ++ (m, i) :: rest) now) :
    Timed c s origin before m.now := by
  generalize hinputs : before ++ (m, i) :: rest = inputs at h
  induction h generalizing rest with
  | start => simp at hinputs
  | pass _ _ _ _ ih => exact ih hinputs
  | take h i' ih =>
      rcases rest.eq_nil_or_concat with rfl | ⟨rest, x, rfl⟩
      · obtain ⟨rfl, ⟨⟩⟩ := List.append_inj' hinputs rfl
        exact h
      · rw [List.concat_eq_append, ← List.cons_append, ← List.append_assoc] at hinputs
        exact ih (List.append_inj' hinputs rfl).1

theorem Timed.punctual_after (h : Timed c (initial c) origin inputs now) :
    (after c inputs).Punctual now :=
  h.punctual (.initial c) (by simp [Punctual, deadlines, initial, Keepalive.ofDuration])

theorem beating_of_came (hperiod : c.keepalive = .ofMillis period) (hpos : period ≠ 0)
    (hnew : (after c inputs).link ≠ .open call)
    (hopen : (after c (inputs ++ [(m, i)])).link = .open call) :
    Beating c call m.now period 0 (inputs ++ [(m, i)]) := by
  have hs := settled_after c inputs
  have r := reaction_step hs m i
  rw [after_concat] at hopen
  obtain ⟨⟨deadline, hlink⟩, -, -, hstart⟩ := opened_reaction r hnew hopen
  constructor
  · have hfresh := pingTimes_eq_nil ((synced_after c inputs).opening call deadline hlink)
    have hnone := (pingsOn_reaction r call).resolve_right fun hping ↦ hnew hping.1
    rw [pingTimes_concat, hfresh, hnone]
    rfl
  · have hnanos : (after c inputs).keepalive.period.nanos ≠ 0 := by
      rw [hs.period, hperiod, Ne, Time.Duration.nanos_ofMillis_eq_zero_iff]
      exact hpos
    rw [after_concat, hstart, Keepalive.start, if_neg hnanos, hs.period, hperiod,
      Time.Duration.ceilMillis_ofMillis, Nat.zero_add, Nat.one_mul]

/-- The clock does not pass a beat, so a ping that is sent is on it. -/
theorem Beating.concat (h : Beating c call start period n inputs)
    (hperiod : c.keepalive = .ofMillis period) (hpunctual : (after c inputs).Punctual m.now)
    (hbefore : (after c inputs).link = .open call)
    (hopen : (after c (inputs ++ [(m, i)])).link = .open call) :
    Beating c call start period n (inputs ++ [(m, i)]) ∨
      m.now = start + (n + 1) * period ∧
        Beating c call start period (n + 1) (inputs ++ [(m, i)]) := by
  have hs := settled_after c inputs
  have r := reaction_step hs m i
  rw [after_concat] at hopen
  rcases pingsOn_reaction r call with hnone | ⟨-, -, hdue, htick, hping⟩
  · refine .inl ⟨?_, ?_⟩
    · rw [pingTimes_concat, hnone, h.sent, List.map_nil, List.append_nil]
    · rw [after_concat, keepalive_reaction r hbefore hopen hnone, h.next]
  · have hle : start + (n + 1) * period ≤ m.now := by
      simpa [Keepalive.isDue, h.next] using hdue
    have hbeat : m.now = start + (n + 1) * period :=
      Nat.le_antisymm ((punctual_iff.1 hpunctual).1 _ h.next) hle
    refine .inr ⟨hbeat, ?_, ?_⟩
    · rw [pingTimes_concat, hping, h.sent, beats_succ, List.map_singleton, hbeat]
    · rw [after_concat, htick, Keepalive.tick, h.next, hs.period, hperiod,
        Time.Duration.ceilMillis_ofMillis, Option.map_some, hbeat, if_neg (by omega),
        Nat.succ_mul (n + 1), Nat.add_assoc]

theorem Timed.beating (hperiod : c.keepalive = .ofMillis period) (hpos : period ≠ 0)
    (htimed : Timed c (initial c) origin inputs now) (h : OpenFrom c call start inputs) :
    ∃ n, Beating c call start period n inputs ∧ start + n * period ≤ now := by
  induction htimed with
  | start => exact absurd h not_openFrom_nil
  | pass _ hle _ _ ih =>
      obtain ⟨n, hbeating, hsince⟩ := ih h
      exact ⟨n, hbeating, hsince.trans hle⟩
  | @take inputs m htimed i ih =>
      obtain ⟨hopen, hearlier | ⟨hnew, rfl⟩⟩ := openFrom_concat_iff.1 h
      · obtain ⟨n, hbeating, hsince⟩ := ih hearlier
        rcases hbeating.concat hperiod htimed.punctual_after hearlier.link hopen with
          hsame | ⟨hbeat, hnext⟩
        · exact ⟨n, hsame, hsince⟩
        · exact ⟨n + 1, hnext, hbeat.ge⟩
      · exact ⟨0, beating_of_came hperiod hpos hnew hopen, by simp⟩

/-- How many pings a lifetime has room for. -/
theorem Lifetime.exists_beats (hperiod : c.keepalive = .ofMillis period) (hpos : period ≠ 0)
    (htimed : Timed c (initial c) origin inputs now) (h : Lifetime c call start inputs now stop) :
    ∃ n, pingTimes c call inputs = beats start period n ∧
      start + n * period ≤ stop ∧ stop ≤ start + (n + 1) * period := by
  cases h with
  | going h =>
      obtain ⟨n, hbeating, hsince⟩ := htimed.beating hperiod hpos h
      exact ⟨n, hbeating.sent, hsince, (punctual_iff.1 htimed.punctual_after).1 _ hbeating.next⟩
  | ended hinputs h hgone =>
      subst hinputs
      have hbefore := htimed.of_append
      obtain ⟨n, hbeating, hsince⟩ := hbefore.beating hperiod hpos h
      refine ⟨n, ?_, hsince, (punctual_iff.1 hbefore.punctual_after).1 _ hbeating.next⟩
      rw [pingTimes_append_of_gone h.link hgone, hbeating.sent]

theorem Lifetime.concat (h : Lifetime c call start inputs now stop) (m : Moment) (i : Input)
    (later : Nat) : ∃ stop, Lifetime c call start (inputs ++ [(m, i)]) later stop := by
  cases h with
  | going h =>
      by_cases hopen : (after c (inputs ++ [(m, i)])).link = .open call
      · exact ⟨later, .going (.stayed h hopen)⟩
      · exact ⟨m.now, .ended rfl h hopen⟩
  | @ended before rest m' i' hinputs h hgone =>
      have hlater : inputs ++ [(m, i)] = before ++ (m', i') :: (rest ++ [(m, i)]) := by
        simp [hinputs]
      exact ⟨m'.now, .ended hlater h hgone⟩

theorem exists_lifetime (h : pingTimes c call inputs ≠ []) (now : Nat) :
    ∃ start stop, Lifetime c call start inputs now stop := by
  induction inputs using List.reverseRecOn generalizing now with
  | nil => exact absurd rfl h
  | append_singleton inputs x ih =>
      obtain ⟨m, i⟩ := x
      rcases pingsOn_reaction (reaction_step (settled_after c inputs) m i) call with
        hnone | ⟨-, hopen, -⟩
      · obtain ⟨start, stop, hlife⟩ := ih (by simpa [pingTimes_concat, hnone] using h) now
        exact ⟨start, hlife.concat m i now⟩
      · obtain ⟨start, hstart⟩ := exists_openFrom (by rwa [after_concat])
        exact ⟨start, now, .going hstart⟩

theorem pingTimes_of_zero (hperiod : c.keepalive.nanos = 0) (call : Nat)
    (inputs : List (Moment × Input)) : pingTimes c call inputs = [] := by
  induction inputs using List.reverseRecOn with
  | nil => rfl
  | append_singleton inputs x ih =>
      obtain ⟨m, i⟩ := x
      have hs := settled_after c inputs
      have hnone := (pingsOn_reaction (reaction_step hs m i) call).resolve_right fun hping ↦
        (hs.keepalive.1 (Keepalive.isRunning_of_isDue hping.2.2.1)).2 hperiod
      rw [pingTimes_concat, ih, hnone]
      rfl

/-- When a run sends pings, up to what the clock shows after it. -/
structure OnBeat (c : Config) (period : Nat) (inputs : List (Moment × Input)) (now : Nat) :
    Prop where
  /-- A lifetime starts when all topics have been told. -/
  begins : ∀ m i call, (after c inputs).link ≠ .open call →
    (after c (inputs ++ [(m, i)])).link = .open call → i = .opened call ∧
      sentOn call ((after c inputs).step c m i).2 = (after c inputs).topics.replay
  /-- A period of zero turns pings off. -/
  silent : period = 0 → ∀ call, pingTimes c call inputs = []
  /-- A connection is pinged on every beat that it lives to see. If it ends on a beat, it may or may
  not have been pinged before that. -/
  steady : period ≠ 0 → ∀ call start stop, Lifetime c call start inputs now stop →
    ∃ n, pingTimes c call inputs = beats start period n ∧
      start + n * period ≤ stop ∧ stop ≤ start + (n + 1) * period
  alive : ∀ call, pingTimes c call inputs ≠ [] →
    ∃ start stop, Lifetime c call start inputs now stop
  connected : ∀ m i call, .send call .ping ∈ ((after c inputs).step c m i).2 →
    (after c inputs).state = .connected ∧
      (after c (inputs ++ [(m, i)])).state = .connected

theorem connected_of_ping (h : .send call .ping ∈ ((after c inputs).step c m i).2) :
    (after c inputs).state = .connected ∧
      (after c (inputs ++ [(m, i)])).state = .connected := by
  have hs := settled_after c inputs
  have hframe : Frame.Control.ping ∈ sentOn call ((after c inputs).step c m i).2 :=
    List.mem_filterMap.2 ⟨_, h, by simp⟩
  have hping : pingsOn call ((after c inputs).step c m i).2 ≠ [] :=
    List.ne_nil_of_mem (List.mem_filter.2 ⟨hframe, by simp⟩)
  obtain ⟨hbefore, hafter, -⟩ :=
    (pingsOn_reaction (reaction_step hs m i) call).resolve_left hping
  rw [after_concat]
  exact ⟨hs.state_eq hbefore, (hs.step m i).state_eq hafter⟩

theorem onBeat (hperiod : c.keepalive = .ofMillis period)
    (h : Timed c (initial c) origin inputs now) : OnBeat c period inputs now where
  begins m i call hnew hopen := by
    rw [after_concat] at hopen
    obtain ⟨-, hi, hsent, -⟩ :=
      opened_reaction (reaction_step (settled_after c inputs) m i) hnew hopen
    exact ⟨hi, hsent⟩
  silent hzero call :=
    pingTimes_of_zero (by rw [hperiod, Time.Duration.nanos_ofMillis_eq_zero_iff, hzero]) call _
  steady hpos _ _ _ hlife := hlife.exists_beats hperiod hpos h
  alive _ hsent := exists_lifetime hsent now
  connected _ _ _ := connected_of_ping

/-- In a run under a clock that stops at every deadline, a connection is pinged on the beats of its
keepalive as long as it lasts, and at no other time; a period of zero means that there are no pings.
Nothing carries over from what was before the connection: two that came at one time and ended at
one time, in whatever runs, were pinged at the same times until they ended. -/
theorem pings_on_beat {c : Config} {period : Nat} (hperiod : c.keepalive = .ofMillis period)
    {origin now : Nat} {inputs : List (Moment × Input)}
    (h : Timed c (initial c) origin inputs now) :
    OnBeat c period inputs now ∧
      ∀ (c' : Config) (origin' now' : Nat) (inputs' : List (Moment × Input)),
        c'.keepalive = c.keepalive → Timed c' (initial c') origin' inputs' now' →
        ∀ call call' start stop, Lifetime c call start inputs now stop →
          Lifetime c' call' start inputs' now' stop →
          (pingTimes c call inputs).filter (· < stop) =
            (pingTimes c' call' inputs').filter (· < stop) := by
  have hbeat := onBeat hperiod h
  refine ⟨hbeat, ?_⟩
  intro c' origin' now' inputs' hsame h' call call' start stop hlife hlife'
  have hbeat' := onBeat (hsame.trans hperiod) h'
  by_cases hzero : period = 0
  · rw [hbeat.silent hzero, hbeat'.silent hzero]
  · obtain ⟨n, hsent, -, hstop⟩ := hbeat.steady hzero call start stop hlife
    obtain ⟨n', hsent', -, hstop'⟩ := hbeat'.steady hzero call' start stop hlife'
    rw [hsent, hsent', filter_beats_eq start period hstop hstop']

/-- A ping is due after 30 ms. -/
def brisk : Config := { Config.default with keepalive := .ofMillis 30 }

/-- The first connection ends half a period after its ping, and another one follows. -/
def rejoined : List (Moment × Input) :=
  [(.clear 0, .command (.connect none)), (.clear 0, .begin), (.clear 0, .opened 1),
    (.clear 30, .ping), (.clear 45, .closed 1), (.clear 1045, .retry), (.clear 1045, .begin),
    (.clear 1045, .opened 2), (.clear 1075, .ping)]

theorem timed_rejoined : Timed brisk (initial brisk) 0 rejoined 1080 := by
  have hcalled : ∀ {inputs : List (Moment × Input)},
      ((initial brisk).run brisk inputs).1.link.isOpening = false →
        ∀ url, ((initial brisk).run brisk inputs).1.link ≠ .waiting url := by
    intro inputs hopening url hlink
    simp [hlink, Link.isOpening] at hopening
  have hfirst : Timed brisk (initial brisk) 0 (rejoined.take 3) 0 :=
    .take (m := .clear 0) (.take (m := .clear 0) (.take (m := .clear 0) .start
      (.command (.connect none))) .begin) (.opened 1)
  have hpinged : Timed brisk (initial brisk) 0 (rejoined.take 4) 30 :=
    .take (m := .clear 30) (hfirst.pass (by decide) (hcalled (by decide)) (by decide)) .ping
  have hclosed : Timed brisk (initial brisk) 0 (rejoined.take 5) 45 :=
    .take (m := .clear 45) (hpinged.pass (by decide) (hcalled (by decide)) (by decide)) (.closed 1)
  have hsecond : Timed brisk (initial brisk) 0 (rejoined.take 8) 1045 :=
    .take (m := .clear 1045) (.take (m := .clear 1045) (.take (m := .clear 1045)
      (hclosed.pass (by decide) (hcalled (by decide)) (by decide)) .retry) .begin) (.opened 2)
  have hagain : Timed brisk (initial brisk) 0 rejoined 1075 :=
    .take (m := .clear 1075) (hsecond.pass (by decide) (hcalled (by decide)) (by decide)) .ping
  exact hagain.pass (by decide) (hcalled (by decide)) (by decide)

theorem rejoined_on_beat :
    brisk.keepalive = .ofMillis 30 ∧ Timed brisk (initial brisk) 0 rejoined 1080 ∧
      pingTimes brisk 1 rejoined = [30] ∧ pingTimes brisk 2 rejoined = [1075] := by
  have hperiod : brisk.keepalive = .ofMillis 30 := rfl
  have hbeat := (pings_on_beat hperiod timed_rejoined).1
  have hcame : OpenFrom brisk 1 0 (rejoined.take 2 ++ [(.clear 0, .opened 1)]) :=
    .came (by decide) (by decide) rfl
  have hfirst : OpenFrom brisk 1 0 (rejoined.take 4) :=
    hcame.stayed (m := .clear 30) (i := .ping) (by decide)
  have hcame' : OpenFrom brisk 2 1045 (rejoined.take 7 ++ [(.clear 1045, .opened 2)]) :=
    .came (by decide) (by decide) rfl
  have hsecond : OpenFrom brisk 2 1045 rejoined :=
    hcame'.stayed (m := .clear 1075) (i := .ping) (by decide)
  obtain ⟨n, hsent, hfrom, hto⟩ := hbeat.steady (by decide) 1 0 45
    (.ended (m := .clear 45) (i := .closed 1) rfl hfirst (by decide))
  obtain ⟨n', hsent', hfrom', hto'⟩ := hbeat.steady (by decide) 2 1045 1080 (.going hsecond)
  obtain rfl : n = 1 := by omega
  obtain rfl : n' = 1 := by omega
  exact ⟨hperiod, timed_rejoined, hsent, hsent'⟩

end Runs

end Client

end EventFeed.Connection
