import EventFeed.Connection.Fault
import EventFeed.Frame.Control
import EventFeed.Frame.Event
import EventFeed.Telemetry.Entry

/-!
# Reports of a client
-/

namespace EventFeed.Connection

namespace Report

def entry (fields : List (String × Telemetry.Value)) (message : String) : Telemetry.Entry :=
  .warning "casefeed_client::connection" fields message

def malformed (e : Frame.DecodeError) : Telemetry.Entry :=
  entry [("error", .shown e.message)] "dropping malformed frame"

def fault (f : Fault) : Telemetry.Entry :=
  entry [("error", .shown f.message), ("kind", .text f.kind)] "transport error"

def exhausted (attempts : Nat) : Telemetry.Entry :=
  entry [("attempts", .int attempts)]
    "reconnect attempts exhausted, waiting for an explicit connect"

def subscribeLost (topic : Topic) : Telemetry.Entry :=
  entry [("topic", .shown topic)] "subscribe not delivered, replayed on next connect"

def unsubscribeLost (topic : Topic) : Telemetry.Entry :=
  entry [("topic", .shown topic)] "unsubscribe not delivered, server may keep sending"

end Report

end EventFeed.Connection
