import EventFeed.Proofs.Frame.Fields
import EventFeed.Proofs.Frame.RoundTrip
import EventFeed.Proofs.Json.Integers
import EventFeed.Proofs.Notification.Subjects

/-!
# Ids as they are written

A frame names what its event is about by the literal of an integer or by a text in quotes. Integers
that fit 64 bits keep their digits from the text of the frame to the comparison with what a
subscription asks for, and no other value is taken for an id. So one id selects the same
subscriptions in both spellings, and no subscription for an id gets events of another: the main
result is `ids_as_written`.
-/

namespace EventFeed

open Json (IntegerText QuotedText ValueText)

/-- What a value names: a text itself, a number its digits. -/
def Json.named? : Json → Option String
  | .str s => some s
  | .num n => some (Json.num n).print
  | _ => none

def Event.named? (e : Event) (key : String) : Option String := (e.data.get? key).bind Json.named?

section Names

variable {c : Char} {e e' : Event} {j : Json} {k : Int} {key x : String} {levels : Nat}
  {v : List Char}

theorem Json.named?_int (k : Int) : (Json.num (.int k)).named? = some (toString k) := by
  have hprint : (Json.num (.int k)).print.toList = (toString k).toList := by
    rw [Json.toList_print, Json.toList_toString]
    rfl
  rw [named?, String.toList_inj.1 hprint]

theorem Json.named?_eq_none_of_head (h : ValueText levels v j) (hhead : v.head? = some c)
    (hc : c ∈ ['n', 't', 'f', '[', '{']) : j.named? = none := by
  cases j with
  | str s =>
      cases h.scalarText rfl with
      | str hquoted =>
          cases hquoted
          cases hhead
          exact absurd hc (by decide)
  | num n =>
      cases h.scalarText rfl with
      | num hliteral _ =>
          obtain ⟨d, cs, rfl, hd⟩ := hliteral.head
          cases hhead
          have hheads : List.Sublist ['n', 't', 'f', '[', '{']
              ['"', 'n', 't', 'f', '[', '{', ']', ' ', '\t', '\n', '\r'] := by decide
          exact absurd rfl (Json.ne_of_numberHead hd (hheads.subset hc))
  | null | bool | arr | obj => rfl

theorem Event.correlates_iff_named? : e.correlates key x = true ↔ e.named? key = some x := by
  rw [correlates, named?]
  cases e.data.get? key with
  | none => simp
  | some j => cases j <;> simp [Json.named?]

theorem Event.correlates_of_named? (h : e.named? key = some x) (y : String) :
    e.correlates key y = true ↔ y = x := by
  rw [correlates_iff_named?, h, Option.some_inj]
  exact eq_comm

theorem Event.correlates_eq_false (h : e.named? key = none) (x : String) :
    e.correlates key x = false := by
  rw [← Bool.not_eq_true, correlates_iff_named?, h]
  exact nofun

theorem Event.correlates_congr (h : e.named? key = e'.named? key) (x : String) :
    e.correlates key x = e'.correlates key x := by
  rw [Bool.eq_iff_iff, correlates_iff_named?, correlates_iff_named?, h]

end Names

namespace Frame

/-- The texts of ids, and the ids. An integer that fits 64 bits is one by its digits. -/
inductive IdText : List Char → String → Prop
  | integer (h : IntegerText v k) (hlow : -2 ^ 63 ≤ k) (hhigh : k < 2 ^ 64) :
      IdText v (toString k)
  | quoted (h : QuotedText v s) : IdText v s

/-- The ids that an event of a frame is about: the one that is written in the frame under the key,
and none if something else is written there, or nothing. -/
structure AsWritten (text key : String) (e : Event) : Prop where
  integer (hv : FieldAt text key v) (hk : IntegerText v k) (hlow : -2 ^ 63 ≤ k)
    (hhigh : k < 2 ^ 64) (x : String) : e.correlates key x = true ↔ x = toString k
  quoted (hv : FieldAt text key v) (hs : QuotedText v s) (x : String) :
    e.correlates key x = true ↔ x = s
  other (hv : FieldAt text key v) (hhead : v.head? = some c)
    (hc : c ∈ ['n', 't', 'f', '[', '{']) (x : String) : e.correlates key x = false
  missing (hnone : ∀ v, ¬ FieldAt text key v) (x : String) : e.correlates key x = false

variable {c : Char} {e : Event} {id key text : String} {v : List Char}

theorem IdText.exists_value (h : IdText v id) :
    ∃ j, ValueText 125 v j ∧ j.named? = some id := by
  cases h with
  | integer h hlow hhigh =>
      have hscalar := Json.scalarText_int_iff.2 ⟨h, hlow, hhigh⟩
      exact ⟨_, hscalar.valueText 125, Json.named?_int _⟩
  | quoted h => exact ⟨_, (Json.ScalarText.str h).valueText 125, rfl⟩

section Decoded

variable (h : decode text = .ok e)
include h

theorem named?_of_idText (hv : FieldAt text key v) (hid : IdText v id) :
    e.named? key = some id := by
  obtain ⟨j, hj, hnamed⟩ := hid.exists_value
  have hget := (get?_data_iff h).2 ⟨v, hv, hj⟩
  rw [Event.named?, hget, Option.bind_some, hnamed]

theorem named?_of_head (hv : FieldAt text key v) (hhead : v.head? = some c)
    (hc : c ∈ ['n', 't', 'f', '[', '{']) : e.named? key = none := by
  obtain ⟨j, hget, hj⟩ := exists_get?_of_fieldAt h hv
  rw [Event.named?, hget, Option.bind_some, Json.named?_eq_none_of_head hj hhead hc]

theorem named?_of_missing (hnone : ∀ v, ¬ FieldAt text key v) : e.named? key = none := by
  cases hget : e.data.get? key with
  | none => rw [Event.named?, hget, Option.bind_none]
  | some j =>
      obtain ⟨v, hv, -⟩ := (get?_data_iff h).1 hget
      exact absurd hv (hnone v)

end Decoded

theorem asWritten_of_decode (h : decode text = .ok e) : AsWritten text key e where
  integer hv hk hlow hhigh :=
    Event.correlates_of_named? (named?_of_idText h hv (.integer hk hlow hhigh))
  quoted hv hs := Event.correlates_of_named? (named?_of_idText h hv (.quoted hs))
  other hv hhead hc := Event.correlates_eq_false (named?_of_head h hv hhead hc)
  missing hnone := Event.correlates_eq_false (named?_of_missing h hnone)

/-- What is written under the key is no other id than the one. -/
theorem fieldAt_of_correlates {x : String} (h : decode text = .ok e)
    (hx : e.correlates key x = true) :
    (∃ v, FieldAt text key v) ∧ ∀ v id, FieldAt text key v → IdText v id → id = x := by
  rw [Event.correlates_iff_named?] at hx
  constructor
  · obtain ⟨j, hget, -⟩ := Option.bind_eq_some_iff.1 hx
    obtain ⟨v, hv, -⟩ := (get?_data_iff h).1 hget
    exact ⟨v, hv⟩
  · intro v id hv hid
    rw [named?_of_idText h hv hid] at hx
    exact Option.some_inj.1 hx

end Frame

namespace Routing

open EventFeed.Frame (AsWritten FieldAt IdText decode)
open Exchange (play)

variable {e e' : Event} {key : String} {sub : Subscription}

/-- A filter looks at the type of an event and at the one field that it has a subject for. -/
theorem Subscription.wants_congr (htype : e.type = e'.type)
    (hsubject : ∀ p ∈ sub.filter.subject, e.named? p.1 = e'.named? p.1) :
    sub.wants (.ofEvent e) = sub.wants (.ofEvent e') := by
  simp only [wants, Filter.keeps, Routed.ofEvent, htype]
  cases hp : sub.filter.subject with
  | none => rfl
  | some p =>
      rw [Option.all_some, Option.all_some, Event.correlates_congr (hsubject p hp)]

/-- An event counts for the id that is written in its frame and for no other, in all its digits if
it is the literal of an integer that fits 64 bits. What a subscription for an id receives is about
that id. Two frames of one type that name an id, in one spelling or in two, are wanted by the same
subscriptions, unless these ask for another field in which the events differ. -/
theorem ids_as_written (key : String) :
    (∀ text e, decode text = .ok e → AsWritten text key e) ∧
    (∀ capacity ops name a c x, (play capacity ops).accounts name = some a →
      c.subjectKey? = some key → a.subscription.filter = .ofSubject c (some x) →
      ∀ r ∈ a.received, ∀ text, decode text = .ok r.event →
        (∃ v, FieldAt text key v) ∧ ∀ v id, FieldAt text key v → IdText v id → id = x) ∧
    ∀ text text' e e' v v' id, decode text = .ok e → decode text' = .ok e' →
      e.type = e'.type → FieldAt text key v → IdText v id → FieldAt text' key v' →
      IdText v' id → ∀ sub : Subscription,
        (∀ p ∈ sub.filter.subject, p.1 ≠ key → e.data.get? p.1 = e'.data.get? p.1) →
        sub.wants (.ofEvent e) = sub.wants (.ofEvent e') := by
  refine ⟨fun text e h ↦ Frame.asWritten_of_decode h, ?_, ?_⟩
  · intro capacity ops name a c x ha hkey hfilter r hr text h
    have hcorrelates := Exchange.correlates_of_received ha hkey hfilter hr
    exact Frame.fieldAt_of_correlates h hcorrelates
  · intro text text' e e' v v' id h h' htype hv hid hv' hid' sub hrest
    apply Subscription.wants_congr htype
    intro p hp
    by_cases hpkey : p.1 = key
    · rw [hpkey, Frame.named?_of_idText h hv hid, Frame.named?_of_idText h' hv' hid']
    · rw [Event.named?, Event.named?, hrest p hp hpkey]

/-- The largest id that an integer can name, in both spellings, and the one below it. -/
theorem largest_id_as_written :
    let id := "18446744073709551615"
    let event (value : Json) : Event :=
      Notification.Subject.eventWith "case_updated" "case_id" value
    let e := event (.nat 18446744073709551615)
    let e' := event (.str id)
    let ops : List Exchange.Operation :=
      [.subscribe 0 (.ofSubject .case (some id)), .publish e,
        .publish (event (.nat 18446744073709551614)), .publish e', .receive 0, .receive 0,
        .receive 0]
    decode e.toJson.print = .ok e ∧ decode e'.toJson.print = .ok e' ∧
      (∀ x, e.correlates "case_id" x = true ↔ x = id) ∧
      (∀ sub : Subscription, (∀ p ∈ sub.filter.subject, p.1 = "case_id") →
        sub.wants (.ofEvent e) = sub.wants (.ofEvent e')) ∧
      ∃ a, (play 4 ops).accounts 0 = some a ∧ a.received.length = 2 ∧
        ∀ r ∈ a.received, ∀ text, decode text = .ok r.event →
          ∀ v k, FieldAt text "case_id" v → IdText v k → k = id := by
  intro id event e e' ops
  obtain ⟨hwritten, hreceived, hspellings⟩ := ids_as_written "case_id"
  have hdecode : ∀ j : Json, Json.WellFormed j ∧ Json.Floatless j →
      (event j).toJson.depth ≤ 127 → decode (event j).toJson.print = .ok (event j) := by
    intro j hj hdepth
    have hdata : Json.WellFormed (.obj (event j).data) ∧ Json.Floatless (.obj (event j).data) :=
      Json.plain_obj (List.pairwise_singleton _ _) (List.forall_mem_singleton.2 hj)
    exact Frame.decode_toJson_print hdata.1 hdata.2 hdepth
  have he : decode e.toJson.print = .ok e := hdecode _ (Json.plain_nat (by decide)) (by decide)
  have he' : decode e'.toJson.print = .ok e' := hdecode _ Json.plain_str (by decide)
  have hget : e.data.get? "case_id" = some (.nat 18446744073709551615) := rfl
  have hget' : e'.data.get? "case_id" = some (.str id) := rfl
  obtain ⟨v, hv, hvalue⟩ := (Frame.get?_data_iff he).1 hget
  obtain ⟨v', hv', hvalue'⟩ := (Frame.get?_data_iff he').1 hget'
  obtain ⟨hinteger, hlow, hhigh⟩ := Json.scalarText_int_iff.1 (hvalue.scalarText rfl)
  have hid : IdText v id := .integer hinteger hlow hhigh
  have hid' : IdText v' id := by
    cases hvalue'.scalarText rfl with
    | str hquoted => exact .quoted hquoted
  have hrun : ((play 4 ops).accounts 0).map (fun a ↦ (a.subscription.filter, a.received.length)) =
      some (.ofSubject .case (some id), 2) := by
    decide +kernel
  obtain ⟨a, ha, hfacts⟩ := Option.map_eq_some_iff.1 hrun
  rw [Prod.mk.injEq] at hfacts
  obtain ⟨hfilter, hlength⟩ := hfacts
  refine ⟨he, he', (hwritten _ _ he).integer hv hinteger hlow hhigh, ?_, a, ha, hlength, ?_⟩
  · intro sub hsub
    exact hspellings _ _ e e' v v' id he he' rfl hv hid hv' hid' sub
      fun p hp hne ↦ absurd (hsub p hp) hne
  · intro r hr text h
    exact (hreceived 4 ops 0 a .case id ha rfl hfilter r hr text h).2

end Routing

end EventFeed
