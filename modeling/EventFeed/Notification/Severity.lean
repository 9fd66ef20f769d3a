import EventFeed.Text.Blank

/-!
# Severities

`Severity.parse` reads a severity as a server may write it, in any case and with blanks around it.
-/

namespace EventFeed.Notification

inductive Severity where
  | info
  | success
  | warning
  | error
  deriving DecidableEq

namespace Severity

def name : Severity → String
  | .info => "info"
  | .success => "success"
  | .warning => "warning"
  | .error => "error"

def named : List (String × Severity) :=
  [("info", .info), ("success", .success), ("warning", .warning), ("error", .error)]

/-- `warn` is short for `warning`. -/
def spellings : List (String × Severity) := ("warn", .warning) :: named

def parse (s : String) : Option Severity :=
  spellings.lookup (String.ofList (Text.asciiLower (Text.trim s.toList)))

end Severity

end EventFeed.Notification
