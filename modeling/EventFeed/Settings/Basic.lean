import EventFeed.Json.Shape

/-!
# Settings

The settings of a feed in three sections, their defaults, and their JSON form, whose members stand
in the order of their names. Their text has the fields in the order in which they are declared. A
field or section that is absent has its default.
-/

namespace EventFeed

namespace Settings

structure Client where
  url : String
  maxReconnectAttempts : UInt32
  reconnectBaseDelayMs : UInt64
  keepaliveIntervalMs : UInt64
  connectTimeoutMs : UInt64
  eventBufferSize : UInt64
  deriving DecidableEq

structure Notifications where
  capacity : UInt64
  defaultTopics : List String
  deriving DecidableEq

structure Logging where
  level : String
  json : Bool
  captureRecent : UInt64
  deriving DecidableEq

namespace Client

def default : Client where
  url := "ws://localhost:8080/ws"
  maxReconnectAttempts := 5
  reconnectBaseDelayMs := 1000
  keepaliveIntervalMs := 30000
  connectTimeoutMs := 10000
  eventBufferSize := 1024

end Client

def Notifications.default : Notifications := ⟨100, ["cases", "workflows", "alerts"]⟩

def Logging.default : Logging := ⟨"info", false, 200⟩

def asUInt32 (j : Json) : Except Json.ShapeError UInt32 :=
  (Json.asWord UInt32.size "u32" j).map UInt32.ofNat

def asUInt64 (j : Json) : Except Json.ShapeError UInt64 :=
  (Json.asWord UInt64.size "u64" j).map UInt64.ofNat

/-- A number of things, which is also a word of 64 bits. -/
def asSize (j : Json) : Except Json.ShapeError UInt64 :=
  (Json.asWord UInt64.size "usize" j).map UInt64.ofNat

namespace Client

def toJson (s : Client) : Json :=
  .obj [("connectTimeoutMs", .nat s.connectTimeoutMs.toNat),
    ("eventBufferSize", .nat s.eventBufferSize.toNat),
    ("keepaliveIntervalMs", .nat s.keepaliveIntervalMs.toNat),
    ("maxReconnectAttempts", .nat s.maxReconnectAttempts.toNat),
    ("reconnectBaseDelayMs", .nat s.reconnectBaseDelayMs.toNat),
    ("url", .str s.url)]

def fields (s : Client) : List (String × Json) :=
  [("url", .str s.url), ("maxReconnectAttempts", .nat s.maxReconnectAttempts.toNat),
    ("reconnectBaseDelayMs", .nat s.reconnectBaseDelayMs.toNat),
    ("keepaliveIntervalMs", .nat s.keepaliveIntervalMs.toNat),
    ("connectTimeoutMs", .nat s.connectTimeoutMs.toNat),
    ("eventBufferSize", .nat s.eventBufferSize.toNat)]

def shape : Json.Shape Client :=
  Client.mk <$> .optional "url" Json.asText default.url
    <*> .optional "maxReconnectAttempts" asUInt32 default.maxReconnectAttempts
    <*> .optional "reconnectBaseDelayMs" asUInt64 default.reconnectBaseDelayMs
    <*> .optional "keepaliveIntervalMs" asUInt64 default.keepaliveIntervalMs
    <*> .optional "connectTimeoutMs" asUInt64 default.connectTimeoutMs
    <*> .optional "eventBufferSize" asSize default.eventBufferSize

def ofJson (j : Json) : Except Json.ShapeError Client := shape.read "ClientSettings" j

end Client

namespace Notifications

def toJson (s : Notifications) : Json :=
  .obj [("capacity", .nat s.capacity.toNat),
    ("defaultTopics", .arr (s.defaultTopics.map .str))]

def fields (s : Notifications) : List (String × Json) :=
  [("capacity", .nat s.capacity.toNat), ("defaultTopics", .arr (s.defaultTopics.map .str))]

def shape : Json.Shape Notifications :=
  Notifications.mk <$> .optional "capacity" asSize default.capacity
    <*> .optional "defaultTopics" (Json.asList Json.asText) default.defaultTopics

def ofJson (j : Json) : Except Json.ShapeError Notifications :=
  shape.read "NotificationSettings" j

end Notifications

namespace Logging

def toJson (s : Logging) : Json :=
  .obj [("captureRecent", .nat s.captureRecent.toNat), ("json", .bool s.json),
    ("level", .str s.level)]

def fields (s : Logging) : List (String × Json) :=
  [("level", .str s.level), ("json", .bool s.json), ("captureRecent", .nat s.captureRecent.toNat)]

def shape : Json.Shape Logging :=
  Logging.mk <$> .optional "level" Json.asText default.level
    <*> .optional "json" Json.asBool default.json
    <*> .optional "captureRecent" asSize default.captureRecent

def ofJson (j : Json) : Except Json.ShapeError Logging := shape.read "LoggingSettings" j

end Logging

end Settings

structure Settings where
  client : Settings.Client
  notifications : Settings.Notifications
  logging : Settings.Logging
  deriving DecidableEq

namespace Settings

def default : Settings := ⟨.default, .default, .default⟩

def toJson (s : Settings) : Json :=
  .obj [("client", s.client.toJson), ("logging", s.logging.toJson),
    ("notifications", s.notifications.toJson)]

def print (s : Settings) : String :=
  (Json.obj [("client", .obj s.client.fields), ("notifications", .obj s.notifications.fields),
    ("logging", .obj s.logging.fields)]).print

def shape : Json.Shape Settings :=
  Settings.mk <$> .optional "client" Client.ofJson .default
    <*> .optional "notifications" Notifications.ofJson .default
    <*> .optional "logging" Logging.ofJson .default

def ofJson (j : Json) : Except Json.ShapeError Settings := shape.read "FeedSettings" j

end Settings

end EventFeed
