import EventFeed.Proofs.Json.Members
import EventFeed.Proofs.Notification.Ingest

/-!
# What a notification says

A rule reads of an event's data the texts that are not empty and the flag of an approval, so a
field that is of no use counts as missing: `Event.reduced` has the same notification. None of the
texts that a rule makes is empty. Both are proved of each way to make a text (`Rule.Says`,
`Rule.MaySay`), and from that of every rule. The main result is
`Notice.complete_for_event`.
-/

namespace EventFeed

namespace Members

variable {ms : Members} {p : String × Json → Bool}

theorem Sorted.filter (h : Sorted ms) (p : String × Json → Bool) : Sorted (ms.filter p) :=
  List.Pairwise.filter p h

theorem Sorted.get?_filter (h : Sorted ms) (p : String × Json → Bool) (key : String) :
    get? (ms.filter p) key = (ms.get? key).filter fun v ↦ p (key, v) := by
  ext v
  rw [Option.filter_eq_some_iff, ← h.mem_iff (p := (key, v)),
    ← (h.filter p).mem_iff (p := (key, v)), List.mem_filter]

end Members

namespace Event

/-- What the rules can use of the data: a text that is not empty, and whether an approval was
given. -/
def isUsable : String × Json → Bool
  | (_, .str s) => s ≠ ""
  | (key, .bool _) => key = "approved"
  | _ => false

/-- The event with nothing in its data but what the rules can use. -/
def reduced (e : Event) : Event := { e with data := e.data.filter isUsable }

/-- The rules cannot tell the data of the two events apart. -/
structure ReadsAs (e e' : Event) : Prop where
  text? : ∀ key, e.text? key = e'.text? key
  approved : e.flag? "approved" = e'.flag? "approved"

variable {e : Event}

theorem text?_ne_empty (e : Event) (key : String) : e.text? key ≠ some "" := by
  rw [text?]
  split
  · split <;> simp_all
  · simp

theorem readsAs_reduced (h : e.data.Sorted) : e.ReadsAs e.reduced where
  text? key := by
    simp only [text?, reduced, h.get?_filter]
    cases e.data.get? key with
    | none => rfl
    | some v =>
        cases v with
        | str s => by_cases hs : s = "" <;> simp [isUsable, Option.filter, hs]
        | bool b => by_cases hkey : key = "approved" <;> simp [isUsable, Option.filter, hkey]
        | _ => rfl
  approved := by
    simp only [flag?, reduced, h.get?_filter]
    cases e.data.get? "approved" with
    | none => rfl
    | some v =>
        cases v with
        | str s => by_cases hs : s = "" <;> simp [isUsable, Option.filter, hs]
        | _ => rfl

end Event

namespace Notification

open Event (ReadsAs)

variable {e e' : Event}

namespace Grade

theorem approved?_congr (h : e.ReadsAs e') : approved? e = approved? e' := by
  simp only [approved?, h.text?, h.approved]

theorem ofDecision_congr (h : e.ReadsAs e') : ofDecision e = ofDecision e' := by
  simp only [ofDecision, approved?_congr h]

theorem severity_congr (h : e.ReadsAs e') (grade : Grade) :
    grade.severity e = grade.severity e' := by
  cases grade with
  | fixed severity => rfl
  | given otherwise => simp only [severity, h.text?]
  | level => simp only [severity, ofLevel, h.text?]
  | decision => exact ofDecision_congr h

end Grade

/-- How a decision of this severity is put in words. -/
def Severity.verdict? : Severity → Option String
  | .success => some "granted"
  | .warning => some "rejected"
  | .info => some "resolved"
  | .error => none

namespace Rule

/-- A text that is never empty, and does not depend on what the rules cannot use. -/
structure Says (body : Event → String) : Prop where
  ne_empty : ∀ e, body e ≠ ""
  congr : ∀ {e e' : Event}, e.ReadsAs e' → body e = body e'

/-- A text that may be missing, and is as `Says` tells where it is not. -/
structure MaySay (body? : Event → Option String) : Prop where
  ne_empty : ∀ e, body? e ≠ some ""
  congr : ∀ {e e' : Event}, e.ReadsAs e' → body? e = body? e'

section Texts

variable {body? other? : Event → Option String}

theorem maySay_text? (key : String) : MaySay (·.text? key) :=
  ⟨fun e ↦ e.text?_ne_empty key, fun h ↦ h.text? key⟩

theorem MaySay.or (hbody : MaySay body?) (hother : MaySay other?) :
    MaySay fun e ↦ (body? e).or (other? e) where
  ne_empty e := by
    have hfirst := hbody.ne_empty e
    cases h : body? e with
    | none => simpa using hother.ne_empty e
    | some s => simpa [h] using hfirst
  congr h := by simp only [hbody.congr h, hother.congr h]

/-- A text that is put into a longer one. -/
theorem MaySay.map (hbody : MaySay body?) {f : String → String} (hf : ∀ s, s ≠ "" → f s ≠ "") :
    MaySay fun e ↦ (body? e).map f where
  ne_empty e := by
    rintro h
    obtain ⟨s, hs, hempty⟩ := Option.map_eq_some_iff.1 h
    refine hf s ?_ hempty
    rintro rfl
    exact hbody.ne_empty e hs
  congr h := by simp only [hbody.congr h]

/-- A text with another to fall back on. -/
theorem MaySay.getD (hbody : MaySay body?) {otherwise : String} (ho : otherwise ≠ "") :
    Says fun e ↦ (body? e).getD otherwise where
  ne_empty e := by
    have hsome := hbody.ne_empty e
    cases h : body? e with
    | none => exact ho
    | some s => simpa [h] using hsome
  congr h := by simp only [hbody.congr h]

theorem maySay_none : MaySay fun _ ↦ none := ⟨nofun, fun _ ↦ rfl⟩

theorem maySay_caseLabel? : MaySay caseLabel? :=
  ((maySay_text? "title").map (by simp [inQuotes])).or
    ((maySay_text? "case_number").map (by simp))

theorem says_aboutCase {ending otherwise : String} (hending : ending ≠ "")
    (ho : otherwise ≠ "") : Says (aboutCase ending otherwise) where
  ne_empty e := by
    rw [aboutCase]
    cases caseLabel? e <;> simp [hending, ho]
  congr h := by simp only [aboutCase, maySay_caseLabel?.congr h]

theorem says_assigned : Says assigned where
  ne_empty e := by simp [assigned]
  congr h := by simp only [assigned, maySay_caseLabel?.congr h, h.text?]

theorem says_workflowName : Says workflowName :=
  (maySay_text? "workflow_name").getD (by decide)

theorem says_workflow (ending : String) : Says fun e ↦ workflowName e ++ ending where
  ne_empty e := by simp [says_workflowName.ne_empty e]
  congr h := by simp only [says_workflowName.congr h]

theorem says_workflowFailed : Says workflowFailed where
  ne_empty e := by
    rw [workflowFailed]
    cases e.text? "error" <;> simp
  congr h := by simp only [workflowFailed, says_workflowName.congr h, h.text?]

theorem says_approvalRequired : Says approvalRequired where
  ne_empty e := by
    rw [approvalRequired]
    cases e.text? "step_name" <;> simp
  congr h := by simp only [approvalRequired, says_workflowName.congr h, h.text?]

theorem says_approvalResolved : Says approvalResolved where
  ne_empty e := by
    simp only [approvalResolved]
    cases Grade.ofDecision e <;> simp
  congr h := by simp only [approvalResolved, Grade.ofDecision_congr h, h.text?]

theorem says_firstOf (key key' : String) {otherwise : String} (ho : otherwise ≠ "") :
    Says (firstOf key key' otherwise) :=
  ((maySay_text? key).or (maySay_text? key')).getD ho

theorem says_detection : Says detection where
  ne_empty e := by
    rw [detection]
    cases e.text? "rule_name" <;> simp
  congr h := by simp only [detection, h.text?]

theorem maySay_linkTo (place key : String) : MaySay (linkTo place key) :=
  (maySay_text? key).map fun s hs ↦ by simp [hs]

end Texts

/-- What every rule keeps to. -/
structure Sound (rule : Rule) : Prop where
  title : rule.title ≠ ""
  body : Says rule.body
  link : MaySay rule.link

theorem sound_cases : ∀ rule ∈ cases, rule.Sound := by
  simp only [cases, List.forall_mem_cons]
  exact ⟨⟨by decide, says_aboutCase (by decide) (by decide), maySay_linkTo _ _⟩,
    ⟨by decide, says_aboutCase (by decide) (by decide), maySay_linkTo _ _⟩,
    ⟨by decide, says_aboutCase (by decide) (by decide), maySay_none⟩,
    ⟨by decide, says_assigned, maySay_linkTo _ _⟩, nofun⟩

theorem sound_workflows : ∀ rule ∈ workflows, rule.Sound := by
  simp only [workflows, List.forall_mem_cons]
  have happroval : MaySay toApproval := (maySay_linkTo _ _).or (maySay_linkTo _ _)
  exact ⟨⟨by decide, says_workflow _, maySay_linkTo _ _⟩,
    ⟨by decide, says_workflow _, maySay_linkTo _ _⟩,
    ⟨by decide, says_workflowFailed, maySay_linkTo _ _⟩,
    ⟨by decide, says_approvalRequired, happroval⟩,
    ⟨by decide, says_approvalResolved, happroval⟩, nofun⟩

theorem sound_notices : ∀ rule ∈ notices, rule.Sound := by
  simp only [notices, List.forall_mem_cons]
  exact ⟨⟨by decide, says_firstOf _ _ (by decide), maySay_linkTo _ _⟩,
    ⟨by decide, says_firstOf _ _ (by decide), maySay_linkTo _ _⟩, nofun⟩

theorem sound_detections : ∀ rule ∈ detections, rule.Sound := by
  simp only [detections, List.forall_mem_cons]
  exact ⟨⟨by decide, says_firstOf _ _ (by decide), maySay_linkTo _ _⟩,
    ⟨by decide, says_detection, maySay_linkTo _ _⟩, nofun⟩

theorem sound_of_mem {rule : Rule} (h : rule ∈ all) : rule.Sound := by
  simp only [all, List.mem_append] at h
  rcases h with ((h | h) | h) | h
  · exact sound_cases rule h
  · exact sound_workflows rule h
  · exact sound_notices rule h
  · exact sound_detections rule h

theorem verdict_of_approvalResolved (e : Event) :
    ∃ verdict, (Grade.ofDecision e).verdict? = some verdict ∧ approvalResolved e =
      "Approval for " ++ (e.text? "workflow_name").getD "the workflow" ++ " was " ++ verdict := by
  simp only [approvalResolved, Grade.ofDecision]
  -- The three endings start with the same word.
  have hwas : " was granted" = " was " ++ "granted" ∧ " was rejected" = " was " ++ "rejected" ∧
      " was resolved" = " was " ++ "resolved" := by decide
  have hjoin : ∀ name verdict : String, "Approval for " ++ name ++ " was " ++ verdict =
      "Approval for " ++ name ++ (" was " ++ verdict) := fun _ _ ↦ String.append_assoc
  rcases Grade.approved? e with _ | _ | _
  · exact ⟨"resolved", rfl, by rw [hjoin, ← hwas.2.2]⟩
  · exact ⟨"rejected", rfl, by rw [hjoin, ← hwas.2.1]⟩
  · exact ⟨"granted", rfl, by rw [hjoin, ← hwas.1]⟩

end Rule

namespace Notice

/-- The notification has all that a user is shown, and what is the event's own as it was sent. -/
structure Complete (e : Event) (n : Notice) : Prop where
  id : n.record.id ≠ "" ∧ (e.id ≠ "" → n.record.id = e.id)
  title : n.record.title ≠ ""
  body : n.record.body ≠ ""
  timestamp : n.record.timestamp ≠ "" ∧ (e.timestamp ≠ "" → n.record.timestamp = e.timestamp)
  unread : n.record.read = false
  link : n.record.link ≠ some ""
  alerts : n.alerts = true ↔ e.type ∈ alerting

variable {stamp : Stamp} {n : Notice} {rule : Rule}

theorem ofEvent?_of_rule (stamp : Stamp) (h : Rule.of? e.type = some rule) :
    ofEvent? stamp e = some
      { record :=
          { id := if e.id = "" then stamp.id else e.id
            title := if rule.ownTitle then (e.text? "title").getD rule.title else rule.title
            body := rule.body e
            severity := rule.grade.severity e
            timestamp := if e.timestamp = "" then stamp.time.text else e.timestamp
            read := false
            link := rule.link e }
        alerts := rule.alerts } := by
  rw [ofEvent?, h, Option.map_some]

theorem isSome_ofEvent?_iff :
    (ofEvent? stamp e).isSome = true ↔ ∃ rule ∈ Rule.all, rule.type = e.type := by
  simp [ofEvent?, Rule.of?]

theorem exists_rule_of_ofEvent? (h : ofEvent? stamp e = some n) :
    ∃ rule, Rule.of? e.type = some rule := by
  obtain ⟨rule, hrule, -⟩ := Option.map_eq_some_iff.1 h
  exact ⟨rule, hrule⟩

theorem complete_of_ofEvent? (h : ofEvent? stamp e = some n) : n.Complete e := by
  obtain ⟨rule, hrule⟩ := exists_rule_of_ofEvent? h
  obtain ⟨hmem, htype⟩ := Rule.of?_eq_some hrule
  have hsound := Rule.sound_of_mem hmem
  rw [ofEvent?_of_rule stamp hrule] at h
  cases h
  refine ⟨⟨?_, fun hid ↦ if_neg hid⟩, ?_, hsound.body.ne_empty e, ⟨?_, fun htime ↦ if_neg htime⟩,
    rfl, hsound.link.ne_empty e, ?_⟩
  · dsimp only
    split
    · simp [Stamp.id]
    · assumption
  · dsimp only
    split
    · exact ((Rule.maySay_text? "title").getD hsound.title).ne_empty e
    · exact hsound.title
  · dsimp only
    split
    · simp [Time.Instant.text]
    · assumption
  · rw [← htype]
    exact Rule.alerts_iff hmem

/-- Two events that differ only in what the rules cannot use make the same notification. -/
theorem ofEvent?_congr (stamp : Stamp) (hreads : e.ReadsAs e') (htype : e.type = e'.type)
    (hid : e.id = e'.id) (htime : e.timestamp = e'.timestamp) :
    ofEvent? stamp e = ofEvent? stamp e' := by
  cases hrule : Rule.of? e.type with
  | none => rw [ofEvent?, ofEvent?, ← htype, hrule, Option.map_none, Option.map_none]
  | some rule =>
      have hsound := Rule.sound_of_mem (Rule.of?_eq_some hrule).1
      rw [ofEvent?_of_rule stamp hrule, ofEvent?_of_rule stamp (htype ▸ hrule), hid, htime,
        hreads.text?, hsound.body.congr hreads, hsound.link.congr hreads,
        Grade.severity_congr hreads]

theorem verdict_of_ofEvent? (h : ofEvent? stamp e = some n) (htype : e.type = "approval_resolved") :
    ∃ verdict, n.record.severity.verdict? = some verdict ∧
      n.record.body =
        "Approval for " ++ (e.text? "workflow_name").getD "the workflow" ++ " was " ++ verdict := by
  have hrule : Rule.of? e.type = Rule.workflows[4] := by
    rw [htype]
    rfl
  rw [ofEvent?_of_rule stamp hrule] at h
  cases h
  exact Rule.verdict_of_approvalResolved e

/-- Every event of a type with a rule has a notification, complete and in the event's own words,
and the notification of an approval says how it was decided. What the rules cannot use counts as
missing. -/
theorem complete_for_event (stamp : Stamp) (e : Event) :
    ((ofEvent? stamp e).isSome = true ↔ ∃ rule ∈ Rule.all, rule.type = e.type) ∧
    (∀ n, ofEvent? stamp e = some n → n.Complete e ∧
      (e.type = "approval_resolved" → ∃ verdict, n.record.severity.verdict? = some verdict ∧
        n.record.body =
          "Approval for " ++ (e.text? "workflow_name").getD "the workflow" ++ " was " ++ verdict)) ∧
    (e.data.Sorted → ofEvent? stamp e.reduced = ofEvent? stamp e) := by
  refine ⟨isSome_ofEvent?_iff, fun n h ↦ ⟨complete_of_ofEvent? h, verdict_of_ofEvent? h⟩, ?_⟩
  intro hsorted
  exact (ofEvent?_congr stamp (Event.readsAs_reduced hsorted) rfl rfl rfl).symm

/-- An approval whose decision is no text, so that the flag counts, of a workflow without a name. -/
def unworded : Event where
  id := ""
  type := "approval_resolved"
  data := [("approved", .bool false), ("decision", .nat 1), ("workflow_name", .str "")]
  timestamp := "2026-01-01T00:00:00Z"

theorem unworded_is_rejected :
    let stamp : Stamp := ⟨"1", ⟨2026, 1, 1, 0, 0, 0, 0⟩⟩
    unworded.data.Sorted ∧ unworded.reduced.data = [("approved", .bool false)] ∧
      ∃ n, ofEvent? stamp unworded = some n ∧ ofEvent? stamp unworded.reduced = some n ∧
        n.Complete unworded ∧ n.record.severity.verdict? = some "rejected" ∧
        n.record.body = "Approval for the workflow was rejected" := by
  intro stamp
  obtain ⟨-, hcomplete, hreduced⟩ := complete_for_event stamp unworded
  have hsorted : unworded.data.Sorted :=
    Members.sorted_of_names ["approved", "decision", "workflow_name"] rfl (by decide)
  exact ⟨hsorted, rfl, _, rfl, hreduced hsorted, (hcomplete _ rfl).1, rfl, rfl⟩

end Notice

end Notification

end EventFeed
