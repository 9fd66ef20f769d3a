import EventFeed.Proofs.Text.Ends
import EventFeed.Telemetry.Memory

/-!
# What a memory gives back

A memory gets its records from the entries it captures and from nowhere else, and the newest one is
found first by every query that it answers. The topic of a record is the one its entry names, but a
topic that was written out has lost the quotes around it.
-/

namespace EventFeed.Telemetry

/-- A topic without the quotes around it. -/
def unquoted (topic : String) : String := String.ofList (Collected.trimQuotes topic.toList)

/-- Whether a quote stands at one of the ends. -/
def IsQuoted (topic : String) : Prop :=
  topic.toList.head? = some '"' ∨ topic.toList.getLast? = some '"'

instance (topic : String) : Decidable (IsQuoted topic) :=
  inferInstanceAs (Decidable (_ ∨ _))

theorem unquoted_eq_self_iff {topic : String} : unquoted topic = topic ↔ ¬ IsQuoted topic := by
  have hstrip : unquoted topic = topic ↔
      Text.strip (· = '"') topic.toList = topic.toList := by
    rw [← String.toList_inj, unquoted, String.toList_ofList]
    rfl
  rw [hstrip, Text.strip_eq_self_iff, IsQuoted, not_or]
  refine and_congr ?_ ?_
  · cases topic.toList.head? <;> simp
  · cases topic.toList.getLast? <;> simp

namespace Collected

/-- The topic that a field names, as it is recorded. -/
def topic? : String × Value → Option String
  | (name, .text s) => if name = "topic" then some s else none
  | (name, .shown s) => if name = "topic" then some (unquoted s) else none
  | _ => none

theorem topic_add (c : Collected) (f : String × Value) :
    (c.add f).topic = (topic? f).or c.topic := by
  obtain ⟨name, value⟩ := f
  cases value with
  | text s =>
      by_cases hmessage : name = "message"
      · simp [add, topic?, hmessage]
      · by_cases htopic : name = "topic" <;> simp [add, topic?, hmessage, htopic, other]
  | shown s =>
      by_cases hmessage : name = "message"
      · simp [add, topic?, hmessage]
      · by_cases htopic : name = "topic" <;>
          simp [add, topic?, hmessage, htopic, other, unquoted]
  | int n => rfl
  | flag b => rfl

theorem exists_topic?_of_foldl {c : Collected} {fields : List (String × Value)} {topic : String}
    (h : (fields.foldl add c).topic = some topic) :
    c.topic = some topic ∨ ∃ f ∈ fields, topic? f = some topic := by
  induction fields generalizing c with
  | nil => exact .inl h
  | cons f fields ih =>
      rcases ih h with hfirst | ⟨g, hg, htopic⟩
      · rw [topic_add, Option.or_eq_some_iff] at hfirst
        rcases hfirst with hf | ⟨-, hc⟩
        · exact .inr ⟨f, List.mem_cons_self, hf⟩
        · exact .inl hc
      · exact .inr ⟨g, List.mem_cons_of_mem _ hg, htopic⟩

end Collected

namespace Entry

/-- The topic that a record of the entry has. -/
def topic? (e : Entry) : Option String := (Collected.ofFields e.values).topic

theorem topic_toRecord (e : Entry) (id : Nat) (time : Time.Instant) :
    (e.toRecord id time).topic = e.topic? := rfl

/-- A record has its topic from a field of that name. -/
theorem exists_field_of_topic? {e : Entry} {topic : String} (h : e.topic? = some topic) :
    ("topic", .text topic) ∈ e.values ∨
      ∃ written, ("topic", .shown written) ∈ e.values ∧ unquoted written = topic := by
  obtain hempty | ⟨⟨name, value⟩, hmem, htopic⟩ := Collected.exists_topic?_of_foldl h
  · cases hempty
  · cases value with
    | text s =>
        obtain ⟨rfl, rfl⟩ : name = "topic" ∧ s = topic := by simpa [Collected.topic?] using htopic
        exact .inl hmem
    | shown s =>
        obtain ⟨rfl, hs⟩ : name = "topic" ∧ unquoted s = topic := by
          simpa [Collected.topic?] using htopic
        exact .inr ⟨s, hmem, hs⟩
    | int n => cases htopic
    | flag b => cases htopic

end Entry

/-- The records with a topic, the newest first. -/
def Query.forTopic (topic : String) (limit : Option Nat) : Query :=
  { Query.all with topic := some topic, limit }

theorem Query.accepts_forTopic {topic : String} {limit : Option Nat} {r : Record} :
    (forTopic topic limit).accepts r = true ↔ r.topic = some topic := by
  simp [accepts, forTopic, all]

theorem Query.topic_of_accepts {q : Query} {topic : String} (hq : q.topic = some topic)
    {r : Record} (h : q.accepts r = true) : r.topic = some topic := by
  simp only [accepts, hq, Bool.and_eq_true] at h
  simpa using h.1.2

namespace Memory

/-- The memory after all entries of a log, each captured at its time. -/
def captureAll (m : Memory) (log : List (Time.Instant × Entry)) : Memory :=
  log.foldl (fun m x ↦ m.capture x.1 x.2) m

variable {m : Memory} {log : List (Time.Instant × Entry)} {e : Entry} {time : Time.Instant}
  {q : Query} {r : Record}

theorem captureAll_append (m : Memory) (first rest : List (Time.Instant × Entry)) :
    m.captureAll (first ++ rest) = (m.captureAll first).captureAll rest :=
  List.foldl_append

@[simp] theorem capacity_capture (m : Memory) (time : Time.Instant) (e : Entry) :
    (m.capture time e).capacity = m.capacity := by
  rw [capture]
  split
  · rw [insert]
    split <;> rfl
  · rfl

@[simp] theorem capacity_captureAll (m : Memory) (log : List (Time.Instant × Entry)) :
    (m.captureAll log).capacity = m.capacity := by
  induction log generalizing m with
  | nil => rfl
  | cons x log ih => exact (ih _).trans (m.capacity_capture x.1 x.2)

theorem records_capture (hcapacity : 0 < m.capacity) (hkept : e.isKept = true) :
    (m.capture time e).records =
      (e.toRecord m.nextId time :: m.records).take m.capacity := by
  rw [capture, if_pos hkept, insert, if_neg (Nat.pos_iff_ne_zero.1 hcapacity)]

/-- Each entry that is kept takes a number. -/
theorem nextId_captureAll (hcapacity : 0 < m.capacity) (hkept : ∀ x ∈ log, x.2.isKept = true) :
    (m.captureAll log).nextId = m.nextId + log.length := by
  induction log generalizing m with
  | nil => rfl
  | cons x log ih =>
      obtain ⟨hx, hlater⟩ := List.forall_mem_cons.1 hkept
      have hnext : (m.capture x.1 x.2).nextId = m.nextId + 1 := by
        rw [capture, if_pos hx, insert, if_neg (Nat.pos_iff_ne_zero.1 hcapacity)]
      have hfirst : m.captureAll (x :: log) = (m.capture x.1 x.2).captureAll log := rfl
      rw [hfirst, ih (by simpa using hcapacity) hlater, hnext, List.length_cons]
      omega

/-- What a capture brings is a record of the entry. -/
theorem mem_records_capture (h : r ∈ (m.capture time e).records) :
    r ∈ m.records ∨ e.isKept = true ∧ r = e.toRecord m.nextId time := by
  rw [capture] at h
  split at h
  · next hkept =>
    rw [insert] at h
    split at h
    · exact .inl h
    · exact (List.mem_cons.1 (List.mem_of_mem_take h)).symm.imp_right fun hr ↦ ⟨hkept, hr⟩
  · exact .inl h

theorem mem_records_captureAll (h : r ∈ (m.captureAll log).records) :
    r ∈ m.records ∨ ∃ x ∈ log, x.2.isKept = true ∧ ∃ id, r = x.2.toRecord id x.1 := by
  induction log generalizing m with
  | nil => exact .inl h
  | cons x log ih =>
      rcases ih h with hfirst | ⟨y, hy, hrecord⟩
      · rcases mem_records_capture hfirst with hm | ⟨hkept, hr⟩
        · exact .inl hm
        · exact .inr ⟨x, List.mem_cons_self, hkept, _, hr⟩
      · exact .inr ⟨y, List.mem_cons_of_mem _ hy, hrecord⟩

theorem mem_query (h : r ∈ m.query q) : r ∈ m.records ∧ q.accepts r = true :=
  List.mem_filter.1 (List.mem_of_mem_take h)

/-- The newest record comes first, if it is asked for. -/
theorem head?_query_capture (hcapacity : 0 < m.capacity) (hkept : e.isKept = true)
    (haccepts : q.accepts (e.toRecord m.nextId time) = true) (hlimit : q.limit ≠ some 0) :
    ((m.capture time e).query q).head? = some (e.toRecord m.nextId time) := by
  obtain ⟨room, hroom⟩ := Nat.exists_eq_succ_of_ne_zero (Nat.pos_iff_ne_zero.1 hcapacity)
  obtain ⟨limit, hlimit⟩ : ∃ limit, q.limit.getD 100 = limit + 1 := by
    cases hq : q.limit with
    | none => exact ⟨99, rfl⟩
    | some limit =>
        refine Nat.exists_eq_succ_of_ne_zero ?_
        rintro rfl
        exact hlimit hq
  rw [query, records_capture hcapacity hkept, hroom, hlimit, List.take_succ_cons,
    List.filter_cons_of_pos haccepts, List.take_succ_cons, List.head?_cons]

/-- A query for a topic finds only records of entries that name it. -/
theorem exists_entry_of_query {capacity : Nat} {topic : String} (hq : q.topic = some topic)
    (h : r ∈ ((empty capacity).captureAll log).query q) :
    ∃ x ∈ log, (∃ id, r = x.2.toRecord id x.1) ∧ x.2.topic? = some topic := by
  obtain ⟨hrecord, haccepts⟩ := mem_query h
  rcases mem_records_captureAll hrecord with hempty | ⟨x, hx, -, id, rfl⟩
  · cases hempty
  · exact ⟨x, hx, ⟨id, rfl⟩, Query.topic_of_accepts hq haccepts⟩

end Memory

end EventFeed.Telemetry
