import EventFeed.Proofs.Notification.Ingest
import EventFeed.Proofs.Routing.Subscribers

/-!
# Which events become notifications

Three tables are kept by the type of an event: the categories, the rules for notifications, and
what the center asks the router for. They agree on every type. So the center receives the events
that there is a rule for and no others, and logs each one it receives. The main result is
`tables_agree`.
-/

namespace EventFeed.Notification

open Routing (Account Category Exchange Filter Routed)
open Routing.Exchange (Operation play published read)

section Received

variable {capacity name : Nat} {ops : List Operation} {a : Account}

/-- The center asks for the type `notification` too, which belongs to a category anyway. -/
theorem Center.keeps_interest (e : Event) :
    interest.keeps (Category.of? e.type) e = isSorted e := by
  rw [Bool.eq_iff_iff, interest, Filter.keeps_foldl_iff, isSorted, Option.isSome_iff_exists]
  constructor
  · rintro (⟨c, hc, -⟩ | htype)
    · exact ⟨c, hc⟩
    · rw [htype]
      exact ⟨.notification, rfl⟩
  · rintro ⟨c, hc⟩
    exact Or.inl ⟨c, hc, c.mem_all⟩

theorem exists_event_of_published {r : Routed} (h : r ∈ published ops) :
    ∃ e, r = .ofEvent e := by
  obtain ⟨op, -, hop⟩ := List.mem_filterMap.1 h
  cases op with
  | publish e => exact ⟨e, (Option.some_inj.1 hop).symm⟩
  | subscribe | receive | turn => cases hop

theorem wants_of_interest (hfilter : a.subscription.filter = Center.interest) {r : Routed}
    (hr : r ∈ published ops) : a.subscription.wants r = isMapped r.event.type := by
  obtain ⟨e, rfl⟩ := exists_event_of_published hr
  rw [Routing.Subscription.wants, hfilter, ← isSorted_eq_isMapped]
  exact Center.keeps_interest e

/-- Of the events that it reads, a subscription with the filter of the center receives those that
there is a rule for. -/
theorem received_of_interest (ha : (play capacity ops).accounts name = some a)
    (hfilter : a.subscription.filter = Center.interest) :
    a.received = ((read capacity ops name a).filterMap ((published ops)[·]?)).filter
      fun r ↦ isMapped r.event.type := by
  rw [(Exchange.faithful_play ha).received]
  apply List.filter_congr
  intro r hr
  obtain ⟨p, -, hp⟩ := List.mem_filterMap.1 hr
  exact wants_of_interest hfilter (List.mem_of_getElem? hp)

end Received

theorem exists_notice_iff {stamp : Stamp} {e : Event} :
    (∃ n, Notice.ofEvent? stamp e = some n) ↔ isMapped e.type = true := by
  rw [← Option.isSome_iff_exists, isSome_ofEvent?_eq]

/-- The category of a type is the one that lists it, and no other does. There is a rule for exactly
the types that have a category, and the filter of the center keeps exactly the events that make a
notification. So after any operations on a router of any capacity, a subscription with that filter
has received, of the events that it has read, all those with a rule and no others, and the center
makes a notification of each one. -/
theorem tables_agree :
    (∀ type c, Category.of? type = some c ↔ type ∈ c.types) ∧
    (∀ (type : String) (c c' : Category), type ∈ c.types → type ∈ c'.types → c = c') ∧
    (∀ type, isMapped type = true ↔ ∃ c, Category.of? type = some c) ∧
    (∀ stamp e, Center.interest.keeps (Category.of? e.type) e = true ↔
      ∃ n, Notice.ofEvent? stamp e = some n) ∧
    ∀ capacity ops name a, (play capacity ops).accounts name = some a →
      a.subscription.filter = Center.interest →
      a.received = ((read capacity ops name a).filterMap ((published ops)[·]?)).filter
        (fun r ↦ isMapped r.event.type) ∧
      ∀ r ∈ a.received, ∀ (center : Center) (stamp : Stamp),
        ∃ n, (center.ingest stamp r.event).2 = some n := by
  refine ⟨fun _ _ ↦ Category.of?_eq_some_iff, fun _ _ _ ↦ Category.eq_of_mem_types,
    fun _ ↦ isMapped_iff, ?_, ?_⟩
  · intro stamp e
    rw [Center.keeps_interest, isSorted_eq_isMapped, exists_notice_iff]
  · intro capacity ops name a ha hfilter
    have hreceived := received_of_interest ha hfilter
    refine ⟨hreceived, fun r hr center stamp ↦ ?_⟩
    rw [hreceived] at hr
    rw [Center.ingest_snd]
    exact exists_notice_iff.2 (List.mem_filter.1 hr).2

/-- Of four events the center receives the two that there is a rule for, in their order. One of
them it asks for by its type and by its category, and receives it once. -/
theorem two_of_four_received :
    let event (type : String) : Operation := .publish ⟨"", type, [], ""⟩
    let ops : List Operation :=
      [.subscribe 0 Center.interest, event "user_login", event "notification",
        event "Case_Created", event "approval_resolved", .receive 0, .receive 0, .receive 0]
    ∃ a, (play 4 ops).accounts 0 = some a ∧
      a.received.map (·.event.type) = ["notification", "approval_resolved"] ∧
      ∀ r ∈ a.received, ∀ (center : Center) (stamp : Stamp),
        ∃ n, (center.ingest stamp r.event).2 = some n := by
  intro event ops
  have hrun : ((play 4 ops).accounts 0).map (fun a ↦ (a.subscription.filter,
      a.received.map (·.event.type))) =
        some (Center.interest, ["notification", "approval_resolved"]) := by
    decide +kernel
  obtain ⟨a, ha, hfacts⟩ := Option.map_eq_some_iff.1 hrun
  rw [Prod.mk.injEq] at hfacts
  obtain ⟨hfilter, htypes⟩ := hfacts
  obtain ⟨-, -, -, -, hreceived⟩ := tables_agree
  exact ⟨a, ha, htypes, (hreceived 4 ops 0 a ha hfilter).2⟩

end EventFeed.Notification
