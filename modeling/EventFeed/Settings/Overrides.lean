import EventFeed.Settings.Basic
import EventFeed.Telemetry.Entry
import EventFeed.Text.Blank
import EventFeed.Text.Word

/-!
# Overrides from the environment

Six variables of the environment override one field each. A variable that is empty counts as
unset. One whose value cannot be read is reported and leaves its field alone.
-/

namespace EventFeed.Settings

abbrev Environment := String → Option String

/-- `true`, `1`, `yes` or `on`, or their opposites, in any case. -/
def flag? (s : String) : Option Bool :=
  let word := String.ofList (Text.asciiLower s.toList)
  if word ∈ ["true", "1", "yes", "on"] then some true
  else if word ∈ ["false", "0", "no", "off"] then some false
  else none

/-- A number between two bounds, which it may reach. -/
def wordIn? (least greatest : Nat) (s : String) : Option Nat :=
  (Text.word? s).filter fun n ↦ least ≤ n && n ≤ greatest

/-- A variable and the field that it overrides; `apply` gives nothing for a value that cannot be
read. -/
structure Override where
  name : String
  apply : String → Settings → Option Settings

namespace Override

def onClient (f : Client → Client) (s : Settings) : Settings := { s with client := f s.client }

def onLogging (f : Logging → Logging) (s : Settings) : Settings :=
  { s with logging := f s.logging }

def url : Override where
  name := "CASEFEED_URL"
  apply v s := some (s |> onClient fun c ↦ { c with url := v })

def maxReconnectAttempts : Override where
  name := "CASEFEED_MAX_RECONNECT_ATTEMPTS"
  apply v s := (wordIn? 0 100 v).map fun n ↦
    s |> onClient fun c ↦ { c with maxReconnectAttempts := UInt32.ofNat n }

def reconnectBaseDelayMs : Override where
  name := "CASEFEED_RECONNECT_BASE_DELAY_MS"
  apply v s := (wordIn? 1 600000 v).map fun n ↦
    s |> onClient fun c ↦ { c with reconnectBaseDelayMs := UInt64.ofNat n }

def keepaliveIntervalMs : Override where
  name := "CASEFEED_KEEPALIVE_INTERVAL_MS"
  apply v s := (wordIn? 1000 600000 v).map fun n ↦
    s |> onClient fun c ↦ { c with keepaliveIntervalMs := UInt64.ofNat n }

def logLevel : Override where
  name := "CASEFEED_LOG_LEVEL"
  apply v s := some (s |> onLogging fun l ↦ { l with level := v })

def logJson : Override where
  name := "CASEFEED_LOG_JSON"
  apply v s := (flag? v).map fun b ↦ s |> onLogging fun l ↦ { l with json := b }

def all : List Override :=
  [url, maxReconnectAttempts, reconnectBaseDelayMs, keepaliveIntervalMs, logLevel, logJson]

def refused (o : Override) (value : String) : Telemetry.Entry :=
  .warning "casefeed_settings::loader" [("key", .text o.name), ("value", .text value)]
    "invalid env var, ignoring"

/-- The settings under one variable, and what is reported about it. -/
def run (o : Override) (env : Environment) (s : Settings) : Settings × List Telemetry.Entry :=
  match (env o.name).filter (· ≠ "") with
  | none => (s, [])
  | some value =>
    match o.apply value s with
    | some s => (s, [])
    | none => (s, [o.refused value])

end Override

/-- The overrides in their order. -/
def overridden (env : Environment) (s : Settings) : Settings × List Telemetry.Entry :=
  Override.all.foldl
    (fun (s, reports) o ↦
      let (s, more) := o.run env s
      (s, reports ++ more))
    (s, [])

end EventFeed.Settings
