import EventFeed.Proofs.Telemetry.Retention
import EventFeed.Proofs.Time.Ordering

/-!
# Queries since a time

A memory compares the time that a query names with those of its records as texts. If that time is
written as the records have theirs, the query finds the records that are not before it. In another
spelling it misses those that the spelling overlooks, and no others. The main result is
`query_since_spelled`.
-/

namespace EventFeed.Telemetry

open Time (Instant Spelling)

namespace Query

variable {q : Query} {r : Record} {since : String}

/-- The same query without a time. -/
def anytime (q : Query) : Query := { q with since := none }

theorem meets_since_iff :
    ({ q with since := some since } : Query).Meets r ↔
      q.anytime.Meets r ∧ ¬ r.timestamp < since := by
  rw [String.not_lt]
  constructor
  · intro h
    exact ⟨⟨h.level, h.target, h.topic, nofun⟩, h.since since rfl⟩
  · rintro ⟨h, hsince⟩
    refine ⟨h.level, h.target, h.topic, ?_⟩
    rintro _ ⟨⟩
    exact hsince

end Query

namespace Memory

/-- What a memory holds after a log, the newest first, each record with the time at which it was
captured. -/
def held (capacity : ℕ) (log : List (Instant × Entry)) : List (Instant × Record) :=
  ((log.filter fun x ↦ x.2.isKept).mapIdx fun i x ↦
    (x.1, x.2.toRecord (i + 1) x.1)).reverse.take capacity

variable {c : ℕ} {log : List (Instant × Entry)} {x : Instant × Record}

theorem history_captured (log : List (Instant × Entry)) :
    history (captured log) =
      ((log.filter fun x ↦ x.2.isKept).mapIdx fun i x ↦
        (x.1, x.2.toRecord (i + 1) x.1)).map (·.2) := by
  rw [history, captured]
  apply List.ext_getElem?
  intro i
  simp only [List.getElem?_mapIdx, List.getElem?_map, Option.map_map]
  rfl

theorem records_captureAll (c : ℕ) (log : List (Instant × Entry)) :
    ((empty c).captureAll log).records = (held c log).map (·.2) := by
  rw [captureAll_eq, storeAll_empty, history_captured, held, List.map_take, List.map_reverse]

theorem timestamp_of_mem_held (h : x ∈ held c log) : x.2.timestamp = x.1.text := by
  obtain ⟨i, hi, rfl⟩ := List.mem_mapIdx.1 (List.mem_reverse.1 (List.mem_of_mem_take h))
  rfl

/-- The records that a query since a time finds, by the texts of their times. -/
theorem query_since_text (c : ℕ) (log : List (Instant × Entry)) (q : Query) (since : String) :
    ((empty c).captureAll log).query { q with since := some since } =
      (((held c log).filter fun x ↦ q.anytime.Meets x.2 ∧ ¬ x.1.text < since).map (·.2)).take
        (q.limit.getD 100) := by
  rw [query_eq, records_captureAll, List.filter_map]
  congr 2
  apply List.filter_congr
  intro x hx
  rw [Function.comp_apply, ← timestamp_of_mem_held hx]
  exact decide_eq_decide.2 Query.meets_since_iff

/-- A memory holds the last records of a log, each with its time. Of these a query finds, the newest
first and up to a limit, the ones that meet it otherwise and are not before the time that it names,
however that is spelled, less those that the spelling overlooks. Nothing is overlooked if the time
is written as the records have theirs. -/
theorem query_since_spelled (c : ℕ) (log : List (Instant × Entry)) (q : Query) :
    ((empty c).captureAll log).records = (held c log).map (·.2) ∧
    (∀ w : Spelling, ((empty c).captureAll log).query { q with since := some w.text } =
      (((held c log).filter fun x ↦
        q.anytime.Meets x.2 ∧ w.moment ≤ x.1.moment ∧ ¬ w.Overlooks x.1).map (·.2)).take
          (q.limit.getD 100)) ∧
    ∀ s : Instant, ((empty c).captureAll log).query { q with since := some s.text } =
      (((held c log).filter fun x ↦ q.anytime.Meets x.2 ∧ ¬ x.1.Before s).map (·.2)).take
        (q.limit.getD 100) := by
  refine ⟨records_captureAll c log, fun w ↦ ?_, fun s ↦ ?_⟩
  · rw [query_since_text]
    simp only [Spelling.text_lt_text_iff, not_or, not_lt]
  · rw [query_since_text]
    simp only [Instant.text_lt_text_iff]

/-- Two records, from noon and from half a second later, are not before noon. A query since noon
finds none of them if noon is written with a `Z`, and only the later one if it is written with three
digits and the offset. -/
theorem records_since_noon_missed :
    let noon : Instant := ⟨2026, 1, 1, 12, 0, 0, 0⟩
    let later : Instant := ⟨2026, 1, 1, 12, 0, 0, 500000000⟩
    let zulu : Spelling := { start := noon, digits := [], zone := .zulu }
    let offset : Spelling := { start := noon, digits := [0, 0, 0], zone := .offset }
    let e : Entry := .warning "feed" [] "event feed is slow"
    let m := (empty 2).captureAll [(noon, e), (later, e)]
    zulu.text = "2026-01-01T12:00:00Z" ∧ offset.text = "2026-01-01T12:00:00.000+00:00" ∧
      (∀ w ∈ [zulu, offset], ∀ t ∈ [noon, later], w.moment ≤ t.moment) ∧
      (m.query Query.all).map (·.timestamp) = [later.text, noon.text] ∧
      m.query { Query.all with since := some zulu.text } = [] ∧
      (m.query { Query.all with since := some offset.text }).map (·.timestamp) =
        [later.text] := by
  intro noon later zulu offset e m
  have hmoment : ∀ w ∈ [zulu, offset], w.moment = noon.moment := by
    simp [zulu, offset, noon, Spelling.moment, Instant.moment, Instant.floor, Time.part]
  have hafter : ∀ t ∈ [noon, later], ¬ t.Before noon := by decide
  refine ⟨by decide, by decide, fun w hw t ht ↦ ?_, by decide +kernel, by decide +kernel,
    by decide +kernel⟩
  rw [hmoment w hw, ← not_lt, ← Instant.before_iff]
  exact hafter t ht

end Memory

end EventFeed.Telemetry
