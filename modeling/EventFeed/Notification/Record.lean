import EventFeed.Json.Shape
import EventFeed.Notification.Severity

/-!
# Notifications

A notification as the user sees it. Its JSON form has a `link` member exactly when there is a link.
-/

namespace EventFeed.Notification

structure Record where
  id : String
  title : String
  body : String
  severity : Severity
  timestamp : String
  read : Bool
  link : Option String
  deriving DecidableEq

namespace Record

def toJson (r : Record) : Json :=
  .obj ([("id", .str r.id), ("title", .str r.title), ("body", .str r.body),
    ("severity", .str r.severity.name), ("timestamp", .str r.timestamp), ("read", .bool r.read)] ++
    match r.link with
    | some link => [("link", .str link)]
    | none => [])

def shape : Json.Shape Record :=
  Record.mk <$> .required "id" Json.asText
    <*> .required "title" Json.asText
    <*> .required "body" Json.asText
    <*> .required "severity" (Json.asVariant Severity.named)
    <*> .required "timestamp" Json.asText
    <*> .required "read" Json.asBool
    <*> .optional "link" (Json.asOption Json.asText) none

def ofJson (j : Json) : Except Json.ShapeError Record := shape.read "NotificationRecord" j

/-- The notification that is written in a text. -/
def ofText? (text : String) : Option Record := Json.ofText? ofJson text

end Record

end EventFeed.Notification
