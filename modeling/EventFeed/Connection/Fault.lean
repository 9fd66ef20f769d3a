import EventFeed.Time.Duration

/-!
# Faults of a connection

Why a connection could not be opened or did not last.
-/

namespace EventFeed.Connection

inductive Fault where
  | connectFailed (reason : String)
  | timeout (after : Time.Duration)
  | sendFailed (reason : String)
  | protocol (reason : String)
  deriving DecidableEq

namespace Fault

def kind : Fault → String
  | .connectFailed _ => "connect_failed"
  | .timeout _ => "timeout"
  | .sendFailed _ => "send_failed"
  | .protocol _ => "protocol"

def message : Fault → String
  | .connectFailed reason => "connect failed: " ++ reason
  | .timeout after => "connect timed out after " ++ after.text
  | .sendFailed reason => "send failed: " ++ reason
  | .protocol reason => "protocol error: " ++ reason

end Fault

end EventFeed.Connection
