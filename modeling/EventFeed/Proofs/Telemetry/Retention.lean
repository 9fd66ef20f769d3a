import EventFeed.Proofs.Broadcast
import EventFeed.Proofs.Telemetry.Recall

/-!
# What a memory holds

All records that were ever stored in a memory, numbered from one, are its `history`. A memory holds
the end of it, as long as its capacity, and a query finds there, from the newest record on, what
meets the query, up to a limit. `Retains` says so, and the main result is `memory_retains`.
-/

namespace EventFeed.Telemetry

/-! ## What a query asks for -/

theorem Memory.occursIn_iff {sub cs : List Char} : occursIn sub cs = true ↔ sub <:+: cs := by
  induction cs with
  | nil => rw [occursIn, List.isEmpty_iff, List.infix_nil]
  | cons c cs ih =>
      rw [occursIn, Bool.or_eq_true, List.isPrefixOf_iff_prefix, ih, List.infix_cons_iff]

namespace Query

/-- The same text, but that ASCII letters may be in another case. -/
def SameButCase (s t : String) : Prop :=
  List.Forall₂ (fun c d ↦ c.toLower = d.toLower) s.toList t.toList

/-- A record that meets what a query asks for. What it does not name it does not ask for. -/
structure Meets (q : Query) (r : Record) : Prop where
  level : ∀ level ∈ q.level, SameButCase r.level level
  target : ∀ target ∈ q.target, target.toList <:+: r.target.toList
  topic : ∀ topic ∈ q.topic, r.topic = some topic
  since : ∀ since ∈ q.since, since ≤ r.timestamp

variable {q : Query} {r : Record} {s t : String}

theorem sameLetters_iff : sameLetters s t = true ↔ SameButCase s t := by
  rw [sameLetters, decide_eq_true_iff, Text.asciiLower, Text.asciiLower, ← List.forall₂_eq_eq_eq,
    List.forall₂_map_left_iff, List.forall₂_map_right_iff, SameButCase]

theorem accepts_iff : q.accepts r = true ↔ q.Meets r := by
  simp only [accepts, Bool.and_eq_true, Option.all_eq_true, sameLetters_iff, Memory.occursIn_iff,
    decide_eq_true_eq]
  constructor
  · rintro ⟨⟨⟨hlevel, htarget⟩, htopic⟩, hsince⟩
    exact ⟨hlevel, htarget, htopic, hsince⟩
  · rintro ⟨hlevel, htarget, htopic, hsince⟩
    exact ⟨⟨⟨hlevel, htarget⟩, htopic⟩, hsince⟩

instance (q : Query) (r : Record) : Decidable (q.Meets r) := decidable_of_iff _ accepts_iff

end Query

/-! ## What was stored -/

/-- The record with another number. -/
def Record.numbered (r : Record) (id : Nat) : Record := { r with id }

/-- All records that were stored, the oldest first, numbered from one. -/
def history (rs : List Record) : List Record := rs.mapIdx fun i r ↦ r.numbered (i + 1)

section History

variable {rs : List Record}

@[simp] theorem length_history (rs : List Record) : (history rs).length = rs.length :=
  List.length_mapIdx

theorem history_concat (rs : List Record) (r : Record) :
    history (rs ++ [r]) = history rs ++ [r.numbered (rs.length + 1)] :=
  List.mapIdx_concat

theorem ids_history (rs : List Record) : (history rs).map (·.id) = List.range' 1 rs.length := by
  induction rs using List.reverseRecOn with
  | nil => rfl
  | append_singleton rs r ih =>
      rw [history_concat, List.map_append, ih, List.length_append, List.length_singleton,
        List.range'_concat, Nat.one_mul, Nat.add_comm 1 rs.length]
      rfl

end History

namespace Memory

/-- The memory after records were stored in it, one after another. -/
def storeAll (m : Memory) (rs : List Record) : Memory :=
  rs.foldl (fun m r ↦ m.insert r.numbered) m

/-- The records of the entries that are kept, without their numbers. -/
def captured (log : List (Time.Instant × Entry)) : List Record :=
  (log.filter fun x ↦ x.2.isKept).map fun x ↦ x.2.toRecord 0 x.1

variable {c k : Nat} {m : Memory} {q : Query} {rs : List Record}

theorem storeAll_concat (m : Memory) (rs : List Record) (r : Record) :
    m.storeAll (rs ++ [r]) = (m.storeAll rs).insert r.numbered := by
  rw [storeAll, List.foldl_concat, storeAll]

/-- A memory with no room does not count either. -/
theorem storeAll_empty (c : Nat) (rs : List Record) : (empty c).storeAll rs =
    { capacity := c
      nextId := if c = 0 then 1 else rs.length + 1
      records := (history rs).reverse.take c } := by
  induction rs using List.reverseRecOn with
  | nil => simp [storeAll, empty, history]
  | append_singleton rs r ih =>
      rw [storeAll_concat, ih, insert]
      by_cases hc : c = 0
      · simp only [hc, if_true, List.take_zero]
      · simp only [hc, if_false, take_cons_take, history_concat, List.reverse_concat,
          List.length_append, List.length_singleton]

/-- To capture entries is to store the records of those that are kept. -/
theorem captureAll_eq (m : Memory) (log : List (Time.Instant × Entry)) :
    m.captureAll log = m.storeAll (captured log) := by
  induction log generalizing m with
  | nil => rfl
  | cons x log ih =>
      have hfirst : m.captureAll (x :: log) = (m.capture x.1 x.2).captureAll log := rfl
      rw [hfirst, ih, capture, captured, captured, List.filter_cons]
      split
      · rfl
      · rfl

/-- A memory that holds the end of a history and finds there what a query asks for. -/
structure Retains (m : Memory) (c : Nat) (rs : List Record) : Prop where
  kept : m.records.reverse = (history rs).drop (rs.length - c)
  count : m.records.length = min rs.length c
  ids : m.records.reverse.map (·.id) =
    List.range' (rs.length - min rs.length c + 1) (min rs.length c)
  found (q : Query) : m.query q =
    (((history rs).drop (rs.length - c)).reverse.filter fun r ↦ q.Meets r).take (q.limit.getD 100)
  descending (q : Query) : (m.query q).Pairwise fun r r' ↦ r'.id < r.id
  limited (q : Query) {k : Nat} (hk : k ≤ q.limit.getD 100) :
    m.query { q with limit := some k } <+: m.query q

/-- What is found is among what is held, in the same order. -/
theorem query_sublist (m : Memory) (q : Query) : (m.query q).Sublist m.records :=
  (List.take_sublist _ _).trans List.filter_sublist

theorem query_eq (m : Memory) (q : Query) :
    m.query q = (m.records.filter fun r ↦ q.Meets r).take (q.limit.getD 100) := by
  rw [query]
  congr 1
  apply List.filter_congr
  intro r _
  rw [Bool.eq_iff_iff, decide_eq_true_iff]
  exact Query.accepts_iff

theorem query_limit_prefix (m : Memory) (hk : k ≤ q.limit.getD 100) :
    m.query { q with limit := some k } <+: m.query q :=
  List.take_prefix_take_left hk

theorem retains_of_kept (hkept : m.records.reverse = (history rs).drop (rs.length - c)) :
    m.Retains c rs := by
  have hrecords : m.records = ((history rs).drop (rs.length - c)).reverse :=
    List.reverse_eq_iff.1 hkept
  have hids : m.records.reverse.map (·.id) =
      List.range' (rs.length - min rs.length c + 1) (min rs.length c) := by
    have hstart : 1 + (rs.length - c) * 1 = rs.length - min rs.length c + 1 := by omega
    have hlength : rs.length - (rs.length - c) = min rs.length c := by omega
    rw [hkept, List.map_drop, ids_history, List.drop_range', hstart, hlength]
  refine ⟨hkept, ?_, hids, fun q ↦ ?_, fun q ↦ ?_, fun q k ↦ m.query_limit_prefix⟩
  · rw [hrecords, List.length_reverse, List.length_drop, length_history]
    omega
  · rw [query_eq, hrecords]
  · -- The ids go up in the order in which the records were stored.
    have hascending : (m.records.reverse.map (·.id)).Pairwise (· < ·) := by
      rw [hids]
      exact List.pairwise_lt_range'
    rw [List.pairwise_map, List.pairwise_reverse] at hascending
    exact hascending.sublist (m.query_sublist q)

/-- A memory holds the last records that were stored in it, as many as it has room for, under the
numbers that they got, and finds what meets a query among them, the newest first. What it captures
of a log is stored in this way. -/
theorem memory_retains (c : Nat) :
    (∀ rs, ((empty c).storeAll rs).Retains c rs) ∧
      ∀ log, ((empty c).captureAll log).Retains c (captured log) := by
  have hstored : ∀ rs, ((empty c).storeAll rs).Retains c rs := by
    intro rs
    apply retains_of_kept
    rw [storeAll_empty, List.take_reverse, List.reverse_reverse, length_history]
  refine ⟨hstored, fun log ↦ ?_⟩
  rw [captureAll_eq]
  exact hstored (captured log)

end Memory

end EventFeed.Telemetry
