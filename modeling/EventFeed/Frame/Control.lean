import EventFeed.Json.Shape

/-!
# Control frames

What the client tells the server: to start or stop sending a topic, or that it is alive. A frame
is one JSON object; it has a `topic` member exactly when it carries a topic.
-/

namespace EventFeed

abbrev Topic := String

namespace Frame

inductive Action where
  | subscribe
  | unsubscribe
  | ping
  deriving DecidableEq

namespace Action

def name : Action → String
  | .subscribe => "subscribe"
  | .unsubscribe => "unsubscribe"
  | .ping => "ping"

def named : List (String × Action) :=
  [("subscribe", .subscribe), ("unsubscribe", .unsubscribe), ("ping", .ping)]

end Action

structure Control where
  action : Action
  topic : Option Topic
  deriving DecidableEq

namespace Control

def subscribe (topic : Topic) : Control := ⟨.subscribe, some topic⟩

def unsubscribe (topic : Topic) : Control := ⟨.unsubscribe, some topic⟩

def ping : Control := ⟨.ping, none⟩

def toJson (f : Control) : Json :=
  .obj (("action", .str f.action.name) ::
    match f.topic with
    | some topic => [("topic", .str topic)]
    | none => [])

def shape : Json.Shape Control :=
  Control.mk <$> .required "action" (Json.asVariant Action.named)
    <*> .optional "topic" (Json.asOption Json.asText) none

def ofJson (j : Json) : Except Json.ShapeError Control := shape.read "ControlFrame" j

def encode (f : Control) : String := f.toJson.print

/-- The frame that is written in a text. -/
def ofText? (text : String) : Option Control := Json.ofText? ofJson text

end Control

end Frame

end EventFeed
