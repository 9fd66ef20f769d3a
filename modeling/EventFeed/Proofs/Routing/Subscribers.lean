import EventFeed.Proofs.Broadcast
import EventFeed.Routing.Router
import Mathlib.Algebra.Ring.Nat
import Mathlib.Data.List.Induction
import Mathlib.Data.List.Infix
import Mathlib.Logic.Function.Basic

/-!
# What a subscription receives

To receive is to take turns at the channel until there is a wanted event or nothing more. An
`Exchange` is a router with subscriptions that have names, and an account for each: what it has
received and what it has reported. Between two turns of one subscription anything else may happen.
The positions that a subscription has passed are those it has `read` and those that were
`Overwritten` before; `subscriptions_accounted` says that it receives what it wants of the first
and reports the number of the second, and that no other subscription has a part in it.
-/

namespace EventFeed.Routing

open Telemetry (Entry)

namespace Subscription

/-- The report of a subscription that has lost events. -/
def lagged (count : Nat) : Entry :=
  .warning "casefeed_router::subscription" [("skipped", .int count)] "event subscription lagged"

/-- One look at the channel: an event if it is a wanted one, and a report if some are lost. -/
def turn (s : Subscription) (channel : Broadcast Routed) :
    Option Routed × Subscription × List Entry :=
  match channel.receive s.position with
  | (.message r, next) => (if s.wants r then some r else none, { s with position := next }, [])
  | (.lagged count, next) => (none, { s with position := next }, [lagged count])
  | (.nothing, next) => (none, { s with position := next }, [])

section Turns

variable {channel : Broadcast Routed} {all : List Routed} {s : Subscription} {r : Routed}

theorem receive_of_lost (hlost : s.position < channel.oldest) :
    s.receive channel =
      let after := ({ s with position := channel.oldest } : Subscription).receive channel
      (after.1, after.2.1, lagged (channel.oldest - s.position) :: after.2.2) := by
  have hkept : ¬ channel.oldest < channel.oldest := Nat.lt_irrefl _
  simp only [receive, catchUp, if_pos hlost, if_neg hkept, lagged]
  split <;> rfl

theorem since_eq_cons (h : channel.Holds all) (hkept : channel.oldest ≤ s.position)
    (hr : all[s.position]? = some r) :
    channel.since s.position = r :: channel.since (s.position + 1) := by
  obtain ⟨hlt, hget⟩ := List.getElem?_eq_some_iff.1 hr
  rw [h.since_eq hkept, h.since_eq (hkept.trans (Nat.le_succ _)),
    List.drop_eq_getElem_cons hlt, hget]

theorem receive_of_wanted (h : channel.Holds all) (hkept : channel.oldest ≤ s.position)
    (hr : all[s.position]? = some r) (hwanted : s.wants r = true) :
    s.receive channel = (some r, { s with position := s.position + 1 }, []) := by
  simp [receive, catchUp, Nat.not_lt.2 hkept, since_eq_cons h hkept hr, hwanted]

theorem receive_of_unwanted (h : channel.Holds all) (hkept : channel.oldest ≤ s.position)
    (hr : all[s.position]? = some r) (hunwanted : s.wants r = false) :
    s.receive channel =
      ({ s with position := s.position + 1 } : Subscription).receive channel := by
  have hkept' : ¬ s.position + 1 < channel.oldest := by omega
  have hwants : ({ s with position := s.position + 1 } : Subscription).wants = s.wants := rfl
  have hsuffix : ((channel.since (s.position + 1)).dropWhile fun r ↦ !s.wants r).length ≤
      (channel.since (s.position + 1)).length := (List.dropWhile_suffix _).length_le
  simp only [receive, catchUp, if_neg (Nat.not_lt.2 hkept), if_neg hkept',
    since_eq_cons h hkept hr, hwants, List.length_cons]
  rw [List.dropWhile_cons_of_pos (by simp [hunwanted])]
  cases hrest : (channel.since (s.position + 1)).dropWhile fun r ↦ !s.wants r with
  | nil => simp [Nat.add_assoc, Nat.add_comm 1]
  | cons r' rest =>
      rw [hrest, List.length_cons] at hsuffix
      simp only [Prod.mk.injEq, Subscription.mk.injEq, true_and, and_true]
      omega

theorem receive_of_nothing (h : channel.Holds all) (hend : s.position = all.length) :
    s.receive channel = (none, s, []) := by
  have hkept : channel.oldest ≤ s.position := hend ▸ h.oldest_le
  have hsince : channel.since s.position = [] := by
    rw [h.since_eq hkept, hend, List.drop_length]
  simp [receive, catchUp, Nat.not_lt.2 hkept, hsince]

/-- To receive is to take a turn and, unless that brings an event or there is nothing more, to
receive after it. -/
theorem receive_eq_turn (h : channel.Holds all) (hle : s.position ≤ all.length) :
    s.receive channel = s.turn channel ∨
      (s.turn channel).1 = none ∧ s.position < (s.turn channel).2.1.position ∧
        s.receive channel =
          let after := (s.turn channel).2.1.receive channel
          (after.1, after.2.1, (s.turn channel).2.2 ++ after.2.2) := by
  rcases h.receive_cases hle with ⟨hlost, heq⟩ | ⟨r, hkept, hr, heq⟩ | ⟨hend, heq⟩
  · rw [turn, heq]
    exact Or.inr ⟨rfl, hlost, receive_of_lost hlost⟩
  · cases hwanted : s.wants r with
    | true =>
        rw [turn, heq, receive_of_wanted h hkept hr hwanted]
        simp [hwanted]
    | false =>
        rw [turn, heq, receive_of_unwanted h hkept hr hwanted]
        simp [hwanted]
  · rw [turn, heq, receive_of_nothing h hend]
    exact Or.inl rfl

@[simp] theorem filter_turn (s : Subscription) (channel : Broadcast Routed) :
    (s.turn channel).2.1.filter = s.filter := by
  rw [turn]
  split <;> rfl

@[simp] theorem filter_receive (s : Subscription) (channel : Broadcast Routed) :
    (s.receive channel).2.1.filter = s.filter := by
  have hcatchUp : (s.catchUp channel).1.filter = s.filter := by
    rw [catchUp]
    split <;> rfl
  simp only [receive]
  split <;> exact hcatchUp

end Turns

end Subscription

/-- A subscription and what has come of it. -/
structure Account where
  subscription : Subscription
  /-- How many events were published before it was made. -/
  start : Nat
  received : List Routed
  reports : List Entry

/-- The number of events that an entry reports as lost. -/
def skipped (e : Entry) : Nat :=
  match e.values.lookup "skipped" with
  | some (.int count) => count.toNat
  | _ => 0

@[simp] theorem skipped_lagged (count : Nat) : skipped (Subscription.lagged count) = count := by
  simp [skipped, Subscription.lagged, Telemetry.Entry.warning]

namespace Account

def note (a : Account) (outcome : Option Routed × Subscription × List Entry) : Account where
  subscription := outcome.2.1
  start := a.start
  received := a.received ++ outcome.1.toList
  reports := a.reports ++ outcome.2.2

def skips (a : Account) : Nat := (a.reports.map skipped).sum

/-- The positions from the first one on that are not to be read any more. -/
def passed (a : Account) : List Nat := List.range' a.start (a.subscription.position - a.start)

theorem mem_passed {a : Account} {p : Nat} :
    p ∈ a.passed ↔ a.start ≤ p ∧ p < a.subscription.position := by
  rw [passed, List.mem_range'_1]
  omega

theorem length_passed (a : Account) : a.passed.length = a.subscription.position - a.start :=
  List.length_range'

/-- The account of a subscription that goes on to a later position. -/
def advance (a : Account) (next : Nat) (got : List Routed) (reports : List Entry) : Account where
  subscription := { a.subscription with position := next }
  start := a.start
  received := a.received ++ got
  reports := a.reports ++ reports

theorem passed_advance {a : Account} (hstart : a.start ≤ a.subscription.position) {next : Nat}
    (hle : a.subscription.position ≤ next) (got : List Routed) (reports : List Entry) :
    (a.advance next got reports).passed =
      a.passed ++ List.range' a.subscription.position (next - a.subscription.position) := by
  have hnext : next - a.start =
      (a.subscription.position - a.start) + (next - a.subscription.position) := by omega
  have hfirst : a.start + (a.subscription.position - a.start) = a.subscription.position := by omega
  simp only [passed, advance]
  rw [hnext, ← List.range'_append_1, hfirst]

theorem skips_advance (a : Account) (next : Nat) (got : List Routed) (reports : List Entry) :
    (a.advance next got reports).skips = a.skips + (reports.map skipped).sum := by
  simp [skips, advance]

/-- What an account has to do with the events that were published, if `Gone` are the positions
that were overwritten before they were read. -/
structure Faithful (all : List Routed) (Gone : Nat → Bool) (a : Account) : Prop where
  start : a.start ≤ a.subscription.position
  within : a.subscription.position ≤ all.length
  received : a.received =
    ((a.passed.filter fun p ↦ !Gone p).filterMap (all[·]?)).filter a.subscription.wants
  skips : (a.passed.filter Gone).length = a.skips

namespace Faithful

variable {channel : Broadcast Routed} {all : List Routed} {Gone : Nat → Bool} {a : Account}

theorem advance (h : a.Faithful all Gone) {next : Nat} {got : List Routed} {reports : List Entry}
    (hle : a.subscription.position ≤ next) (hwithin : next ≤ all.length)
    (hgot : got = (((List.range' a.subscription.position
      (next - a.subscription.position)).filter fun p ↦ !Gone p).filterMap (all[·]?)).filter
        a.subscription.wants)
    (hskips : ((List.range' a.subscription.position
      (next - a.subscription.position)).filter Gone).length = (reports.map skipped).sum) :
    (a.advance next got reports).Faithful all Gone := by
  have hpassed := passed_advance h.start hle got reports
  refine ⟨h.start.trans hle, hwithin, ?_, ?_⟩
  · rw [hpassed, List.filter_append, List.filterMap_append, List.filter_append, Account.advance,
      hgot, h.received]
    rfl
  · rw [hpassed, List.filter_append, List.length_append, h.skips, hskips, skips_advance]

theorem turn (h : a.Faithful all Gone) (hchannel : channel.Holds all)
    (hgone : ∀ p, a.subscription.position ≤ p → (Gone p = true ↔ p < channel.oldest)) :
    (a.note (a.subscription.turn channel)).Faithful all Gone := by
  rcases hchannel.receive_cases h.within with ⟨hlost, heq⟩ | ⟨r, hkept, hr, heq⟩ | ⟨-, heq⟩
  · have hall : ∀ p ∈ List.range' a.subscription.position
        (channel.oldest - a.subscription.position), Gone p = true := by
      intro p hp
      rw [List.mem_range'_1] at hp
      exact (hgone p hp.1).2 (by omega)
    rw [Subscription.turn, heq]
    refine h.advance hlost.le hchannel.oldest_le ?_ ?_
    · have hnone : (List.range' a.subscription.position
          (channel.oldest - a.subscription.position)).filter (fun p ↦ !Gone p) = [] :=
        List.filter_eq_nil_iff.2 fun p hp ↦ by simp [hall p hp]
      rw [hnone]
      rfl
    · rw [List.filter_eq_self.2 hall, List.length_range']
      simp
  · have hlive : Gone a.subscription.position = false := by
      rw [Bool.eq_false_iff]
      intro hlost
      exact absurd ((hgone _ le_rfl).1 hlost) (Nat.not_lt.2 hkept)
    obtain ⟨hlt, -⟩ := List.getElem?_eq_some_iff.1 hr
    rw [Subscription.turn, heq]
    refine h.advance (Nat.le_succ _) hlt ?_ ?_
    · cases hwanted : a.subscription.wants r <;> simp [hlive, hr, hwanted]
    · simp [hlive]
  · rw [Subscription.turn, heq]
    exact h.advance le_rfl h.within (by simp) (by simp)

theorem receive (h : a.Faithful all Gone) (hchannel : channel.Holds all)
    (hgone : ∀ p, a.subscription.position ≤ p → (Gone p = true ↔ p < channel.oldest)) :
    (a.note (a.subscription.receive channel)).Faithful all Gone := by
  induction hleft : all.length - a.subscription.position using Nat.strongRecOn generalizing a with
  | ind left ih =>
      have hturn := h.turn hchannel hgone
      rcases a.subscription.receive_eq_turn hchannel h.within with heq | ⟨hnone, hlt, heq⟩
      · rw [heq]
        exact hturn
      · have hafter : a.note (a.subscription.receive channel) =
            (a.note (a.subscription.turn channel)).note
              ((a.subscription.turn channel).2.1.receive channel) := by
          simp [heq, note, hnone]
        have hwithin : (a.subscription.turn channel).2.1.position ≤ all.length := hturn.within
        rw [hafter]
        refine ih _ ?_ hturn (fun p hp ↦ hgone p (hlt.le.trans hp)) rfl
        rw [← hleft]
        exact Nat.sub_lt_sub_left (hlt.trans_le hwithin) hlt

theorem append (h : a.Faithful all Gone) (more : List Routed) :
    a.Faithful (all ++ more) Gone := by
  refine ⟨h.start, h.within.trans (by simp), ?_, h.skips⟩
  rw [h.received]
  congr 1
  refine List.filterMap_congr fun p hp ↦ ?_
  have hlt := (mem_passed.1 (List.mem_of_mem_filter hp)).2.trans_le h.within
  rw [List.getElem?_append_left hlt]

theorem congr (h : a.Faithful all Gone) {Gone' : Nat → Bool}
    (heq : ∀ p ∈ a.passed, Gone' p = Gone p) : a.Faithful all Gone' := by
  refine ⟨h.start, h.within, ?_, ?_⟩
  · have hread : (a.passed.filter fun p ↦ !Gone' p) = a.passed.filter fun p ↦ !Gone p :=
      List.filter_congr fun p hp ↦ by rw [heq p hp]
    rw [h.received, hread]
  · rw [← h.skips, List.filter_congr heq]

end Faithful

end Account

/-- A router and the accounts of its subscriptions, by name. -/
structure Exchange where
  router : Router
  accounts : Nat → Option Account

namespace Exchange

inductive Operation where
  | publish (e : Event)
  | subscribe (name : Nat) (f : Filter)
  | receive (name : Nat)
  /-- A receiver in another thread may be held up after each of its turns. -/
  | turn (name : Nat)

namespace Operation

def published? : Operation → Option Routed
  | .publish e => some (.ofEvent e)
  | .subscribe .. | .receive _ | .turn _ => none

/-- Whether an operation is a subscription's own, or one that all of them see. -/
def concerns (name : Nat) : Operation → Bool
  | .publish _ => true
  | .subscribe n _ | .receive n | .turn n => n = name

end Operation

def note (x : Exchange) (name : Nat)
    (look : Subscription → Broadcast Routed → Option Routed × Subscription × List Entry) :
    Exchange :=
  { x with
    accounts := Function.update x.accounts name
      ((x.accounts name).map fun a ↦ a.note (look a.subscription x.router.channel)) }

/-- A name is not given to a second subscription. -/
def subscribe (x : Exchange) (name : Nat) (f : Filter) : Exchange :=
  match x.accounts name with
  | some _ => x
  | none =>
    let (router, s) := x.router.subscribe f
    { router, accounts := Function.update x.accounts name (some ⟨s, router.channel.sent, [], []⟩) }

def step (x : Exchange) : Operation → Exchange
  | .publish e => { x with router := (x.router.publish e).1 }
  | .subscribe name f => x.subscribe name f
  | .receive name => x.note name Subscription.receive
  | .turn name => x.note name Subscription.turn

def play (capacity : Nat) (ops : List Operation) : Exchange :=
  ops.foldl step ⟨.empty capacity, fun _ ↦ none⟩

def published (ops : List Operation) : List Routed := ops.filterMap Operation.published?

/-- How many events the router keeps. -/
def room (capacity : Nat) : Nat := (max capacity 1).nextPowerOfTwo

/-- Whether the place of an event was taken by a later one while the subscription had still to
read it. -/
def overwritten (capacity : Nat) (ops : List Operation) (name p : Nat) : Bool :=
  ops.inits.any fun first ↦ ((play capacity first).accounts name).any fun a ↦
    a.subscription.position ≤ p && p + room capacity < (published first).length

/-- The positions of the events that a subscription has read, wanted or not. -/
def read (capacity : Nat) (ops : List Operation) (name : Nat) (a : Account) : List Nat :=
  a.passed.filter fun p ↦ !overwritten capacity ops name p

section Runs

variable {capacity : Nat} {ops : List Operation} {op : Operation} {name p : Nat} {a : Account}

theorem play_concat (capacity : Nat) (ops : List Operation) (op : Operation) :
    play capacity (ops ++ [op]) = (play capacity ops).step op := by
  simp [play]

theorem published_concat (ops : List Operation) (op : Operation) :
    published (ops ++ [op]) = published ops ++ op.published?.toList := by
  rw [published, List.filterMap_append]
  cases h : op.published? <;> simp [published, h]

theorem overwritten_iff :
    overwritten capacity ops name p = true ↔
      ∃ first, first <+: ops ∧ ∃ a, (play capacity first).accounts name = some a ∧
        a.subscription.position ≤ p ∧ p + room capacity < (published first).length := by
  simp [overwritten, List.any_eq_true, Option.any_eq_true, List.mem_inits]

theorem overwritten_concat :
    overwritten capacity (ops ++ [op]) name p =
      (overwritten capacity ops name p ||
        ((play capacity (ops ++ [op])).accounts name).any fun a ↦
          a.subscription.position ≤ p &&
            p + room capacity < (published (ops ++ [op])).length) := by
  simp [overwritten, List.inits_append]

@[simp] theorem channel_note (x : Exchange) (name : Nat)
    (look : Subscription → Broadcast Routed → Option Routed × Subscription × List Entry) :
    (x.note name look).router.channel = x.router.channel := rfl

@[simp] theorem channel_subscribe (x : Exchange) (name : Nat) (f : Filter) :
    (x.subscribe name f).router.channel = x.router.channel := by
  cases h : x.accounts name <;> simp [subscribe, h, Router.subscribe]

theorem channel_step (x : Exchange) (op : Operation) :
    (x.step op).router.channel = op.published?.toList.foldl Broadcast.send x.router.channel := by
  cases op <;> simp [step, Operation.published?, Router.publish]

theorem channel_play (capacity : Nat) (ops : List Operation) :
    (play capacity ops).router.channel.Holds (published ops) ∧
      (play capacity ops).router.channel.size = room capacity := by
  induction ops using List.reverseRecOn with
  | nil => exact ⟨.empty capacity, rfl⟩
  | append_singleton ops op ih =>
      rw [play_concat, channel_step, published_concat]
      exact ⟨ih.1.foldl_send _, (Broadcast.size_foldl_send _ _).trans ih.2⟩

theorem oldest_play (capacity : Nat) (ops : List Operation) :
    (play capacity ops).router.channel.oldest = (published ops).length - room capacity := by
  obtain ⟨hchannel, hsize⟩ := channel_play capacity ops
  rw [Broadcast.oldest, hchannel.sent, hsize]

/-- What a subscription has not passed is overwritten exactly if it is no longer kept. -/
theorem overwritten_iff_of_pending (h : (play capacity ops).accounts name = some a)
    (hp : a.subscription.position ≤ p) :
    overwritten capacity ops name p = true ↔ p < (play capacity ops).router.channel.oldest := by
  rw [overwritten_iff, oldest_play]
  constructor
  · rintro ⟨first, hfirst, b, -, -, hlt⟩
    have hle : (published first).length ≤ (published ops).length :=
      (hfirst.filterMap Operation.published?).length_le
    omega
  · intro hlt
    exact ⟨ops, List.prefix_rfl, a, h, hp, by omega⟩

theorem accounts_note (x : Exchange) (n : Nat)
    (look : Subscription → Broadcast Routed → Option Routed × Subscription × List Entry)
    (name : Nat) :
    (x.note n look).accounts name =
      if name = n then (x.accounts n).map fun a ↦ a.note (look a.subscription x.router.channel)
      else x.accounts name := by
  exact Function.update_apply ..

theorem accounts_subscribe (x : Exchange) (n : Nat) (f : Filter) (name : Nat) :
    (x.subscribe n f).accounts name =
      if name = n ∧ x.accounts n = none then
        some ⟨⟨f, x.router.channel.sent⟩, x.router.channel.sent, [], []⟩
      else x.accounts name := by
  cases h : x.accounts n with
  | some a => simp [subscribe, h]
  | none => simp [subscribe, h, Router.subscribe, Function.update_apply]

theorem faithful_note {look : Subscription → Broadcast Routed →
      Option Routed × Subscription × List Entry} {n : Nat}
    (ih : ∀ a, (play capacity ops).accounts name = some a →
      a.Faithful (published ops) (overwritten capacity ops name))
    (hlook : ∀ a, (play capacity ops).accounts name = some a →
      (a.note (look a.subscription (play capacity ops).router.channel)).Faithful (published ops)
        (overwritten capacity ops name))
    (h : ((play capacity ops).note n look).accounts name = some a) :
    a.Faithful (published ops) (overwritten capacity ops name) := by
  rw [accounts_note] at h
  split at h
  · next hname =>
    obtain ⟨b, hb, rfl⟩ := Option.map_eq_some_iff.1 h
    exact hlook b (hname ▸ hb)
  · exact ih a h

theorem faithful_play (h : (play capacity ops).accounts name = some a) :
    a.Faithful (published ops) (overwritten capacity ops name) := by
  induction ops using List.reverseRecOn generalizing a with
  | nil => cases h
  | append_singleton ops op ih =>
      -- What is lost by the operation itself is not passed yet.
      suffices hbefore : a.Faithful (published (ops ++ [op])) (overwritten capacity ops name) by
        refine hbefore.congr fun p hp ↦ ?_
        have hpassed := (Account.mem_passed.1 hp).2
        rw [overwritten_concat, h]
        simp [Nat.not_le.2 hpassed]
      obtain ⟨hchannel, -⟩ := channel_play capacity ops
      rw [play_concat] at h
      rw [published_concat]
      cases op with
      | publish e => exact (ih h).append _
      | subscribe n f =>
          simp only [Operation.published?, Option.toList_none, List.append_nil]
          rw [step, accounts_subscribe] at h
          split at h
          · cases h
            rw [hchannel.sent]
            exact ⟨le_rfl, le_rfl, by simp [Account.passed],
              by simp [Account.passed, Account.skips]⟩
          · exact ih h
      | receive n =>
          simp only [Operation.published?, Option.toList_none, List.append_nil]
          exact faithful_note (fun _ ↦ ih)
            (fun b hb ↦ (ih hb).receive hchannel fun p ↦ overwritten_iff_of_pending hb) h
      | turn n =>
          simp only [Operation.published?, Option.toList_none, List.append_nil]
          exact faithful_note (fun _ ↦ ih)
            (fun b hb ↦ (ih hb).turn hchannel fun p ↦ overwritten_iff_of_pending hb) h

/-- When a subscription was made, and for what. -/
def Opened (capacity : Nat) (ops : List Operation) (name : Nat) (a : Account) : Prop :=
  ∃ before f after, ops = before ++ .subscribe name f :: after ∧
    (play capacity before).accounts name = none ∧ a.start = (published before).length ∧
      a.subscription.filter = f

theorem Opened.concat (h : Opened capacity ops name a) (op : Operation) {b : Account}
    (hstart : b.start = a.start) (hfilter : b.subscription.filter = a.subscription.filter) :
    Opened capacity (ops ++ [op]) name b := by
  obtain ⟨before, f, after, hops, hnone, hbefore, hf⟩ := h
  refine ⟨before, f, after ++ [op], ?_, hnone, hstart.trans hbefore, hfilter.trans hf⟩
  rw [hops, List.append_assoc, List.cons_append]

theorem opened_note {look : Subscription → Broadcast Routed →
      Option Routed × Subscription × List Entry}
    (hlook : ∀ s channel, (look s channel).2.1.filter = s.filter) {n : Nat}
    (ih : ∀ a, (play capacity ops).accounts name = some a → Opened capacity ops name a)
    (h : ((play capacity ops).note n look).accounts name = some a) (op : Operation) :
    Opened capacity (ops ++ [op]) name a := by
  rw [accounts_note] at h
  split at h
  · next hname =>
    obtain ⟨b, hb, rfl⟩ := Option.map_eq_some_iff.1 h
    exact (ih b (hname ▸ hb)).concat op rfl (hlook _ _)
  · exact (ih a h).concat op rfl rfl

theorem opened_play (h : (play capacity ops).accounts name = some a) :
    Opened capacity ops name a := by
  induction ops using List.reverseRecOn generalizing a with
  | nil => cases h
  | append_singleton ops op ih =>
      obtain ⟨hchannel, -⟩ := channel_play capacity ops
      rw [play_concat] at h
      cases op with
      | publish e => exact (ih h).concat _ rfl rfl
      | subscribe n f =>
          rw [step, accounts_subscribe] at h
          split at h
          · next hnew =>
            obtain ⟨rfl, hnone⟩ := hnew
            cases h
            exact ⟨ops, f, [], rfl, hnone, hchannel.sent, rfl⟩
          · exact (ih h).concat _ rfl rfl
      | receive n => exact opened_note Subscription.filter_receive (fun _ ↦ ih) h _
      | turn n => exact opened_note Subscription.filter_turn (fun _ ↦ ih) h _

/-- What others do makes no difference to a subscription. -/
theorem accounts_filter (capacity : Nat) (ops : List Operation) (name : Nat) :
    (play capacity (ops.filter (·.concerns name))).router.channel =
        (play capacity ops).router.channel ∧
      (play capacity (ops.filter (·.concerns name))).accounts name =
        (play capacity ops).accounts name := by
  induction ops using List.reverseRecOn with
  | nil => exact ⟨rfl, rfl⟩
  | append_singleton ops op ih =>
      obtain ⟨hchannel, haccounts⟩ := ih
      rw [play_concat, List.filter_append]
      cases hconcerns : op.concerns name with
      | true =>
          rw [List.filter_cons_of_pos hconcerns, List.filter_nil, play_concat, channel_step,
            channel_step, hchannel]
          refine ⟨rfl, ?_⟩
          cases op with
          | publish e => exact haccounts
          | subscribe n f =>
              obtain rfl : n = name := of_decide_eq_true hconcerns
              simp only [step, accounts_subscribe, hchannel, haccounts]
          | receive n =>
              obtain rfl : n = name := of_decide_eq_true hconcerns
              simp only [step, accounts_note, hchannel, haccounts]
          | turn n =>
              obtain rfl : n = name := of_decide_eq_true hconcerns
              simp only [step, accounts_note, hchannel, haccounts]
      | false =>
          rw [List.filter_cons_of_neg (by simp [hconcerns]), List.filter_nil, List.append_nil]
          cases op with
          | publish e => cases hconcerns
          | subscribe n f =>
              have hne : name ≠ n := fun h ↦ of_decide_eq_false hconcerns h.symm
              simp [step, accounts_subscribe, hne, hchannel, haccounts]
          | receive n =>
              have hne : name ≠ n := fun h ↦ of_decide_eq_false hconcerns h.symm
              simp [step, accounts_note, hne, hchannel, haccounts]
          | turn n =>
              have hne : name ≠ n := fun h ↦ of_decide_eq_false hconcerns h.symm
              simp [step, accounts_note, hne, hchannel, haccounts]

/-- After any operations on a router of any capacity: a subscription has received, in order, what
it wants of the events published since it was made, less those that were overwritten before it read
them. The events it has read, wanted or not, those it has reported as lost and those still to come
are all of them together. It has passed over an event unread only if more were pending at some time
than the router keeps; and all this would be the same without any other subscription. -/
theorem subscriptions_accounted (h : (play capacity ops).accounts name = some a) :
    Opened capacity ops name a ∧
    (a.received =
        ((read capacity ops name a).filterMap ((published ops)[·]?)).filter a.subscription.wants ∧
      (read capacity ops name a).Pairwise (· < ·)) ∧
    (read capacity ops name a).length + a.skips +
        ((published ops).length - a.subscription.position) = (published ops).length - a.start ∧
    (∀ p ∈ a.passed, p ∉ read capacity ops name a →
      ∃ first, first <+: ops ∧ ∃ b, (play capacity first).accounts name = some b ∧
        b.subscription.position ≤ p ∧
          room capacity < (published first).length - b.subscription.position) ∧
    (play capacity (ops.filter (·.concerns name))).accounts name = some a := by
  have hfaithful := faithful_play h
  have hstart := hfaithful.start
  have hwithin := hfaithful.within
  refine ⟨opened_play h, ⟨hfaithful.received, ?_⟩, ?_, ?_, ?_⟩
  · exact (List.pairwise_lt_range' ..).filter _
  · have hparts := List.length_eq_length_filter_add (l := a.passed) (overwritten capacity ops name)
    rw [Account.length_passed, hfaithful.skips] at hparts
    rw [read]
    omega
  · intro p hp hunread
    have hlost : overwritten capacity ops name p = true := by
      by_contra hlive
      exact hunread (List.mem_filter.2 ⟨hp, by simpa using hlive⟩)
    obtain ⟨first, hfirst, b, hb, hpending, hlt⟩ := overwritten_iff.1 hlost
    exact ⟨first, hfirst, b, hb, hpending, by omega⟩
  · rw [(accounts_filter capacity ops name).2, h]

/-- The first subscription is too slow for a router of two places and loses three events of five;
the other one wants only some of them and has no part in that. -/
theorem slow_subscription_accounted :
    let event (type : String) : Operation := .publish ⟨"", type, [], ""⟩
    let ops : List Operation :=
      [event "pong", .subscribe 0 .all, .subscribe 1 (.ofType "pong"), event "case_created",
        event "case_created", .receive 1, event "pong", event "pong", event "pong", .turn 0,
        .receive 0]
    ∃ a, (play 2 ops).accounts 0 = some a ∧ a.received.length = 1 ∧ a.skips = 3 ∧
      (read 2 ops 0 a).length + a.skips +
        ((published ops).length - a.subscription.position) = 5 := by
  intro event ops
  have hrun : ((play 2 ops).accounts 0).map (fun a ↦ (a.start, a.received.length, a.skips)) =
      some (1, 1, 3) := by decide +kernel
  obtain ⟨a, ha, hfacts⟩ := Option.map_eq_some_iff.1 hrun
  have hall := (subscriptions_accounted ha).2.2.1
  simp only [Prod.mk.injEq] at hfacts
  obtain ⟨hstart, hreceived, hskips⟩ := hfacts
  exact ⟨a, ha, hreceived, hskips, by rw [hall, hstart]; rfl⟩

end Runs

end Exchange

end EventFeed.Routing
