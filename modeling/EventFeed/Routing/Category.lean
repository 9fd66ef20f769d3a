/-!
# Categories

Events are sorted by their type. A type belongs to at most one category; a type that is in none is
still delivered to those who ask for it by name.
-/

namespace EventFeed.Routing

inductive Category where
  | case
  | workflow
  | notification
  | alert
  deriving DecidableEq

namespace Category

def all : List Category := [.case, .workflow, .notification, .alert]

def name : Category → String
  | .case => "case"
  | .workflow => "workflow"
  | .notification => "notification"
  | .alert => "alert"

def types : Category → List String
  | .case => ["case_created", "case_updated", "case_deleted", "case_assigned"]
  | .workflow => ["workflow_started", "workflow_completed", "workflow_failed",
      "approval_required", "approval_resolved"]
  | .notification => ["notification", "system_alert"]
  | .alert => ["alert_created", "detection_hit"]

def of? (type : String) : Option Category := all.find? fun c ↦ c.types.contains type

/-- The field of the data that says what an event of the category is about. -/
def subjectKey? : Category → Option String
  | .case => some "case_id"
  | .workflow => some "workflow_id"
  | .notification => none
  | .alert => none

end Category

end EventFeed.Routing
