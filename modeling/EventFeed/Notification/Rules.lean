import EventFeed.Frame.Event
import EventFeed.Notification.Record
import EventFeed.Time.Instant

/-!
# From events to notifications

One rule for each type of event that is worth a notification: its title, how severe it is, whether
it raises an alert, and how body and link are made from the event's data. Every field of the data
may be missing, so each text has something to fall back on. A field that is not a text, or is an
empty one, counts as missing.

An event without an id or a time takes them from a `Stamp`, made when the event is handled.
-/

namespace EventFeed.Notification

/-- What gives an event an identity: a suffix no other stamp has, and the time. -/
structure Stamp where
  suffix : String
  time : Time.Instant

def Stamp.id (s : Stamp) : String := "ntf_" ++ s.suffix

inductive Grade where
  | fixed (severity : Severity)
  /-- The event's own severity if it has one that can be read. -/
  | given (otherwise : Severity)
  /-- The level of an alert: `critical`, `high`, `medium`, `low`, or a severity. -/
  | level
  /-- How an approval was decided. -/
  | decision

structure Rule where
  type : String
  title : String
  /-- Whether the event's own title comes first. -/
  ownTitle : Bool
  grade : Grade
  alerts : Bool
  body : Event → String
  link : Event → Option String

namespace Grade

def ofLevel (e : Event) : Severity :=
  match e.text? "severity" with
  | none => .warning
  | some s =>
    let level := String.ofList (Text.asciiLower s.toList)
    if level = "critical" || level = "high" then .error
    else if level = "medium" then .warning
    else if level = "low" then .info
    else (Severity.parse level).getD .warning

def isWord (word : String) (s : String) : Bool := Text.asciiLower s.toList = word.toList

/-- A decision in words counts before the flag, unless it is neither of the two words. -/
def approved? (e : Event) : Option Bool :=
  match e.text? "decision" with
  | some d =>
    if isWord "approved" d then some true
    else if isWord "rejected" d then some false
    else e.flag? "approved"
  | none => e.flag? "approved"

def ofDecision (e : Event) : Severity :=
  match approved? e with
  | some true => .success
  | some false => .warning
  | none => .info

def severity (e : Event) : Grade → Severity
  | .fixed severity => severity
  | .given otherwise => ((e.text? "severity").bind Severity.parse).getD otherwise
  | .level => ofLevel e
  | .decision => ofDecision e

end Grade

namespace Rule

def inQuotes (s : String) : String := "\"" ++ s ++ "\""

def caseLabel? (e : Event) : Option String :=
  ((e.text? "title").map inQuotes).or ((e.text? "case_number").map fun n ↦ "Case " ++ n)

/-- A sentence about a case, which may have no label. -/
def aboutCase (ending : String) (otherwise : String) (e : Event) : String :=
  match caseLabel? e with
  | some label => label ++ ending
  | none => otherwise

def assigned (e : Event) : String :=
  (caseLabel? e).getD "A case" ++ " has been assigned to " ++
    ((e.text? "assignee_name").or (e.text? "assignee")).getD "you"

def workflowName (e : Event) : String := (e.text? "workflow_name").getD "A workflow"

def workflowFailed (e : Event) : String :=
  match e.text? "error" with
  | some error => workflowName e ++ " failed: " ++ error
  | none => workflowName e ++ " has failed"

def approvalRequired (e : Event) : String :=
  match e.text? "step_name" with
  | some step => workflowName e ++ " is waiting for approval at " ++ inQuotes step
  | none => workflowName e ++ " is waiting for your approval"

def approvalResolved (e : Event) : String :=
  let name := (e.text? "workflow_name").getD "the workflow"
  match Grade.ofDecision e with
  | .success => "Approval for " ++ name ++ " was granted"
  | .warning => "Approval for " ++ name ++ " was rejected"
  | _ => "Approval for " ++ name ++ " was resolved"

/-- The first of two fields that is there. -/
def firstOf (key key' otherwise : String) (e : Event) : String :=
  ((e.text? key).or (e.text? key')).getD otherwise

def detection (e : Event) : String :=
  match e.text? "rule_name" with
  | some rule => "Detection rule " ++ inQuotes rule ++ " matched"
  | none => "A detection rule matched"

def linkTo (place key : String) (e : Event) : Option String := (e.text? key).map (place ++ ·)

def toCase : Event → Option String := linkTo "/cases/" "case_id"

def toWorkflow : Event → Option String := linkTo "/workflows/" "workflow_id"

def toApproval (e : Event) : Option String :=
  (linkTo "/approvals/" "approval_id" e).or (toWorkflow e)

def toAlert : Event → Option String := linkTo "/alerts/" "alert_id"

/-- The link that the event itself names. -/
def toOwn : Event → Option String := linkTo "" "link"

def cases : List Rule := [
  { type := "case_created", title := "New Case Created", ownTitle := false
    grade := .fixed .info, alerts := false
    body := aboutCase " has been created" "A new case has been created", link := toCase },
  { type := "case_updated", title := "Case Updated", ownTitle := false
    grade := .fixed .info, alerts := false
    body := aboutCase " has been updated" "A case has been updated", link := toCase },
  { type := "case_deleted", title := "Case Deleted", ownTitle := false
    grade := .fixed .warning, alerts := false
    body := aboutCase " has been deleted" "A case has been deleted", link := fun _ ↦ none },
  { type := "case_assigned", title := "Case Assigned", ownTitle := false
    grade := .fixed .info, alerts := false
    body := assigned, link := toCase }]

def workflows : List Rule := [
  { type := "workflow_started", title := "Workflow Started", ownTitle := false
    grade := .fixed .info, alerts := false
    body := fun e ↦ workflowName e ++ " has started", link := toWorkflow },
  { type := "workflow_completed", title := "Workflow Completed", ownTitle := false
    grade := .fixed .success, alerts := false
    body := fun e ↦ workflowName e ++ " completed successfully", link := toWorkflow },
  { type := "workflow_failed", title := "Workflow Failed", ownTitle := false
    grade := .fixed .error, alerts := true
    body := workflowFailed, link := toWorkflow },
  { type := "approval_required", title := "Approval Required", ownTitle := false
    grade := .fixed .warning, alerts := true
    body := approvalRequired, link := toApproval },
  { type := "approval_resolved", title := "Approval Resolved", ownTitle := false
    grade := .decision, alerts := false
    body := approvalResolved, link := toApproval }]

def notices : List Rule := [
  { type := "notification", title := "Notification", ownTitle := true
    grade := .given .info, alerts := true
    body := firstOf "message" "body" "You have a new notification", link := toOwn },
  { type := "system_alert", title := "System Alert", ownTitle := true
    grade := .given .warning, alerts := true
    body := firstOf "message" "body" "A system alert was raised", link := toOwn }]

def detections : List Rule := [
  { type := "alert_created", title := "New Alert", ownTitle := true
    grade := .level, alerts := true
    body := firstOf "description" "message" "A new alert requires attention", link := toAlert },
  { type := "detection_hit", title := "Detection Hit", ownTitle := false
    grade := .fixed .warning, alerts := true
    body := detection, link := toAlert }]

def all : List Rule := cases ++ workflows ++ notices ++ detections

def of? (type : String) : Option Rule := all.find? (·.type = type)

end Rule

/-- Whether events of this type become notifications. -/
def isMapped (type : String) : Bool := (Rule.of? type).isSome

/-- A new notification and whether it raises an alert. -/
structure Notice where
  record : Record
  alerts : Bool
  deriving DecidableEq

def Notice.ofEvent? (stamp : Stamp) (e : Event) : Option Notice :=
  (Rule.of? e.type).map fun rule ↦
    { record :=
        { id := if e.id = "" then stamp.id else e.id
          title := if rule.ownTitle then (e.text? "title").getD rule.title else rule.title
          body := rule.body e
          severity := rule.grade.severity e
          timestamp := if e.timestamp = "" then stamp.time.text else e.timestamp
          read := false
          link := rule.link e }
      alerts := rule.alerts }

end EventFeed.Notification
