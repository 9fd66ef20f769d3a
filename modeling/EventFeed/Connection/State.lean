import EventFeed.Json.Shape

/-!
# Connection states
-/

namespace EventFeed.Connection

inductive State where
  | disconnected
  | connecting
  | connected
  | error
  deriving DecidableEq

namespace State

def name : State → String
  | .disconnected => "disconnected"
  | .connecting => "connecting"
  | .connected => "connected"
  | .error => "error"

def named : List (String × State) :=
  [("disconnected", .disconnected), ("connecting", .connecting), ("connected", .connected),
    ("error", .error)]

def initial : State := .disconnected

def ofJson (j : Json) : Except Json.ShapeError State := Json.asVariant named j

end State

end EventFeed.Connection
