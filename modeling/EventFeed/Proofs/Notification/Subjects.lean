import EventFeed.Proofs.Notification.Notices
import EventFeed.Proofs.Routing.Subscribers

/-!
# What events are about

An event names the case or the workflow that it is about in a field of its data. A subscription for
one subject compares that field with a text, a number as it is written; a notification links to its
subject only if the field is a text. So what such a subscription receives has the link to the
subject, or, if the subject is named by a number, none at all. The main result is
`Subject.linked_of_correlates`.
-/

namespace EventFeed

namespace Event

variable {e : Event} {key v : String}

theorem correlates_iff :
    e.correlates key v = true ↔
      e.data.get? key = some (.str v) ∨
        ∃ x, e.data.get? key = some (.num x) ∧ (Json.num x).print = v := by
  rw [correlates]
  split <;> simp_all

theorem text?_eq_some_iff : e.text? key = some v ↔ e.data.get? key = some (.str v) ∧ v ≠ "" := by
  rw [text?]
  split
  · next s hs =>
    rw [hs, Option.some_inj, Json.str.injEq]
    constructor
    · intro h
      split at h
      · cases h
      · next hne =>
        cases h
        exact ⟨rfl, hne⟩
    · rintro ⟨rfl, hne⟩
      exact if_neg hne
  · next hother =>
    constructor
    · intro h
      cases h
    · rintro ⟨h, -⟩
      exact (hother v h).elim

end Event

namespace Routing

variable {capacity : Nat} {ops : List Exchange.Operation} {name : Nat} {a : Account}
  {c : Category} {key v : String}

theorem Filter.correlates_of_keeps (hkey : c.subjectKey? = some key)
    {category : Option Category} {e : Event}
    (h : (Filter.ofSubject c (some v)).keeps category e = true) : e.correlates key v = true := by
  have hfilter : Filter.ofSubject c (some v) = (Filter.ofCategory c).about key v := by
    simp only [Filter.ofSubject, hkey]
  rw [hfilter, Filter.keeps, Bool.and_eq_true] at h
  exact h.2

/-- What a subscription for one subject receives is about that subject. -/
theorem Exchange.correlates_of_received (ha : (play capacity ops).accounts name = some a)
    (hkey : c.subjectKey? = some key) (hfilter : a.subscription.filter = .ofSubject c (some v))
    {r : Routed} (hr : r ∈ a.received) : r.event.correlates key v = true := by
  rw [(faithful_play ha).received] at hr
  have hwants := (List.mem_filter.1 hr).2
  rw [Subscription.wants, hfilter] at hwants
  exact Filter.correlates_of_keeps hkey hwants

end Routing

namespace Notification

open Routing (Account Category Exchange Filter)
open Routing.Exchange (Operation play)

/-- The field that names what events of a category are about, the place where that is found, and
the types of events whose notifications link there. -/
structure Subject where
  category : Category
  key : String
  place : String
  types : List String

namespace Subject

def cases : Subject where
  category := .case
  key := "case_id"
  place := "/cases/"
  types := ["case_created", "case_updated", "case_assigned"]

def workflows : Subject where
  category := .workflow
  key := "workflow_id"
  place := "/workflows/"
  types := ["workflow_started", "workflow_completed", "workflow_failed"]

def all : List Subject := [cases, workflows]

variable {s : Subject} {e : Event} {v : String} {stamp : Stamp}

theorem subjectKey?_category (hs : s ∈ all) : s.category.subjectKey? = some s.key := by
  have hall : ∀ s ∈ all, s.category.subjectKey? = some s.key := by
    simp only [all, List.forall_mem_cons]
    exact ⟨rfl, rfl, List.forall_mem_nil _⟩
  exact hall s hs

theorem exists_rule (hs : s ∈ all) (htype : e.type ∈ s.types) :
    ∃ rule, Rule.of? e.type = some rule ∧ rule.link = Rule.linkTo s.place s.key := by
  have hall : ∀ s ∈ all, ∀ type ∈ s.types,
      ∃ rule, Rule.of? type = some rule ∧ rule.link = Rule.linkTo s.place s.key := by
    simp only [all, cases, workflows, List.forall_mem_cons]
    exact ⟨⟨⟨_, rfl, rfl⟩, ⟨_, rfl, rfl⟩, ⟨_, rfl, rfl⟩, List.forall_mem_nil _⟩,
      ⟨⟨_, rfl, rfl⟩, ⟨_, rfl, rfl⟩, ⟨_, rfl, rfl⟩, List.forall_mem_nil _⟩, List.forall_mem_nil _⟩
  exact hall s hs e.type htype

/-- An event of these types has a notification, with a link to what a text in the field names. -/
theorem exists_notice (stamp : Stamp) (hs : s ∈ all) (htype : e.type ∈ s.types) :
    ∃ n, Notice.ofEvent? stamp e = some n ∧ n.record.link = (e.text? s.key).map (s.place ++ ·) := by
  obtain ⟨rule, hrule, hlink⟩ := exists_rule hs htype
  refine ⟨_, Notice.ofEvent?_of_rule stamp hrule, ?_⟩
  dsimp only
  rw [hlink, Rule.linkTo]

/-- The notification of an event has the link to a subject if a text names it, and no link if a
number does. -/
def Links (s : Subject) (v : String) (stamp : Stamp) (e : Event) : Prop :=
  ∃ n, Notice.ofEvent? stamp e = some n ∧
    (e.data.get? s.key = some (.str v) ∧ n.record.link = some (s.place ++ v) ∨
      (∃ x, e.data.get? s.key = some (.num x) ∧ (Json.num x).print = v) ∧ n.record.link = none)

theorem links_of_correlates (stamp : Stamp) (hs : s ∈ all) (htype : e.type ∈ s.types)
    (hv : v ≠ "") (h : e.correlates s.key v = true) : s.Links v stamp e := by
  obtain ⟨n, hn, hlink⟩ := exists_notice stamp hs htype
  refine ⟨n, hn, ?_⟩
  rcases Event.correlates_iff.1 h with htext | ⟨x, hx, hprint⟩
  · rw [Event.text?_eq_some_iff.2 ⟨htext, hv⟩] at hlink
    exact Or.inl ⟨htext, hlink⟩
  · -- A number is not read as a text, so there is nothing to link to.
    have hnone : e.text? s.key = none := by
      rw [Event.text?, hx]
    rw [hnone] at hlink
    exact Or.inr ⟨⟨x, hx, hprint⟩, hlink⟩

theorem correlates_of_link (hs : s ∈ all) (htype : e.type ∈ s.types) {n : Notice}
    (hn : Notice.ofEvent? stamp e = some n) (hlink : n.record.link = some (s.place ++ v)) :
    e.correlates s.key v = true := by
  obtain ⟨n', hn', hlink'⟩ := exists_notice stamp hs htype
  obtain rfl : n' = n := Option.some_inj.1 (hn'.symm.trans hn)
  obtain ⟨t, ht, heq⟩ := Option.map_eq_some_iff.1 (hlink'.symm.trans hlink)
  rw [String.append_right_inj] at heq
  subst heq
  exact Event.correlates_iff.2 (Or.inl (Event.text?_eq_some_iff.1 ht).1)

/-- An event that is about the subject `v` has a notification that links to `v` if the event names
it in a text; if it names it by a number there is no link. A notification links to `v` for no other
events. So what a subscription for the subject has received after any operations on its router
links to the subject where a text names it, and only there. -/
theorem linked_of_correlates (stamp : Stamp) (hs : s ∈ all) (hv : v ≠ "") :
    (∀ e : Event, e.type ∈ s.types → e.correlates s.key v = true → s.Links v stamp e) ∧
    (∀ (e : Event) (n : Notice), e.type ∈ s.types → Notice.ofEvent? stamp e = some n →
      n.record.link = some (s.place ++ v) → e.correlates s.key v = true) ∧
    ∀ (capacity : Nat) (ops : List Operation) (name : Nat) (a : Account),
      (play capacity ops).accounts name = some a →
      a.subscription.filter = .ofSubject s.category (some v) →
      ∀ r ∈ a.received, r.event.type ∈ s.types → s.Links v stamp r.event := by
  refine ⟨fun e htype h ↦ links_of_correlates stamp hs htype hv h,
    fun e n htype hn hlink ↦ correlates_of_link hs htype hn hlink, ?_⟩
  intro capacity ops name a ha hfilter r hr htype
  have h := Exchange.correlates_of_received ha (subjectKey?_category hs) hfilter hr
  exact links_of_correlates stamp hs htype hv h

/-- An event of a type with nothing in its data but one field. -/
def eventWith (type key : String) (value : Json) : Event := ⟨"", type, [(key, value)], ""⟩

/-- A subscription receives two events about the workflow 17, of which one names it in a text. -/
theorem links_of_workflow :
    let stamp : Stamp := ⟨"1", ⟨2026, 1, 1, 0, 0, 0, 0⟩⟩
    let event (type : String) (id : Json) : Operation := .publish (eventWith type "workflow_id" id)
    let ops : List Operation :=
      [.subscribe 0 (.ofSubject .workflow (some "17")), event "workflow_failed" (.nat 17),
        event "workflow_started" (.str "18"), event "workflow_started" (.str "17"), .receive 0,
        .receive 0]
    ∃ a, (play 4 ops).accounts 0 = some a ∧
      a.received.map (fun r ↦ (r.event.type, r.event.text? "workflow_id")) =
        [("workflow_failed", none), ("workflow_started", some "17")] ∧
      ∀ r ∈ a.received, workflows.Links "17" stamp r.event := by
  intro stamp event ops
  have hrun : ((play 4 ops).accounts 0).map (fun a ↦ (a.subscription.filter,
      a.received.map fun r ↦ (r.event.type, r.event.text? "workflow_id"))) =
        some (.ofSubject .workflow (some "17"),
          [("workflow_failed", none), ("workflow_started", some "17")]) := by
    decide +kernel
  obtain ⟨a, ha, hfacts⟩ := Option.map_eq_some_iff.1 hrun
  rw [Prod.mk.injEq] at hfacts
  obtain ⟨hfilter, hreceived⟩ := hfacts
  have hworkflows : workflows ∈ all := by simp [all]
  obtain ⟨-, -, hlinks⟩ := linked_of_correlates stamp hworkflows (v := "17") (by decide)
  refine ⟨a, ha, hreceived, fun r hr ↦ hlinks 4 ops 0 a ha hfilter r hr ?_⟩
  have hmem := List.mem_map_of_mem (f := fun r ↦ (r.event.type, r.event.text? "workflow_id")) hr
  have htypes : ∀ p ∈ [("workflow_failed", none), ("workflow_started", some "17")],
      p.1 ∈ workflows.types := by decide
  exact htypes _ (hreceived ▸ hmem)

/-- The subject 42 is that of the event, but its notification has no link. -/
theorem numbered_case_has_no_link :
    let stamp : Stamp := ⟨"1", ⟨2026, 1, 1, 0, 0, 0, 0⟩⟩
    let e := eventWith "case_updated" "case_id" (.nat 42)
    e.type ∈ cases.types ∧ e.correlates "case_id" "42" = true ∧
      ∃ n, Notice.ofEvent? stamp e = some n ∧ n.record.link ≠ some ("/cases/" ++ "42") := by
  exact ⟨by decide, by decide, _, rfl, by decide⟩

end Subject

end Notification

end EventFeed
