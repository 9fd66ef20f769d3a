import EventFeed.Notification.Rules
import EventFeed.Telemetry.Entry

/-!
# Alerts

A passing message for the user. Where alerts are written to the log, an error is logged as an
error, a warning as a warning, and the others below.
-/

namespace EventFeed.Notification

structure Alert where
  title : String
  body : String
  severity : Severity
  deriving DecidableEq

/-- The alert of a new notification, if it raises one. -/
def Notice.alert? (n : Notice) : Option Alert :=
  if n.alerts then some ⟨n.record.title, n.record.body, n.record.severity⟩ else none

namespace Alert

def target : String := "casefeed_notify::alert"

def entry (a : Alert) : Telemetry.Entry :=
  let texts := [("title", .text a.title), ("body", .text a.body)]
  let message : String × Telemetry.Value := ("message", .shown "alert")
  match a.severity with
  | .error => .of .error target (texts ++ [message])
  | .warning => .of .warn target (texts ++ [message])
  | severity => .of .info target (texts ++ [("severity", .shown severity.name), message])

end Alert

end EventFeed.Notification
