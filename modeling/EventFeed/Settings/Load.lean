import EventFeed.Json.Merge
import EventFeed.Json.Reader
import EventFeed.Settings.Overrides

/-!
# Loading settings

Settings come from three layers: the defaults, a file laid over them, and the environment over
both. What comes out is checked before it is used.
-/

namespace EventFeed.Settings

/-- What is found where the settings file should be. -/
inductive File where
  | missing
  | directory
  | content (bytes : ByteArray)

inductive LoadError where
  | isDirectory (path : String)
  | notText (path : String)
  | json (cause : Json.ReadError)
  | shape (cause : Json.ShapeError)
  | invalid (field reason : String)

def LoadError.message : LoadError → String
  | .isDirectory path => "cannot read " ++ path ++ ": Is a directory (os error 21)"
  | .notText path => "cannot read " ++ path ++ ": stream did not contain valid UTF-8"
  | .json cause => "settings JSON: " ++ cause.message
  | .shape cause => "settings JSON: " ++ cause.message
  | .invalid field reason => field ++ ": " ++ reason

/-- `home` is the user's directory, if it is known. -/
def path (home : Option String) : String :=
  (home.getD "/tmp" |> join ".casefeed") |> join "settings.json"
where
  /-- One more part after a directory, which may be written with a slash at its end. -/
  join (part directory : String) : String :=
    if directory = "" then part
    else if directory.toList.getLast? = some '/' then directory ++ part
    else directory ++ "/" ++ part

/-- The settings a client can run with. -/
def check (s : Settings) : Except LoadError Unit :=
  if !("ws://".toList.isPrefixOf s.client.url.toList ||
      "wss://".toList.isPrefixOf s.client.url.toList) then
    .error (.invalid "client.url" ("must start with ws:// or wss://, got " ++ s.client.url))
  else if s.notifications.capacity = 0 then
    .error (.invalid "notifications.capacity" "must be at least 1")
  else if s.client.eventBufferSize = 0 then
    .error (.invalid "client.eventBufferSize" "must be at least 1")
  else .ok ()

/-- The settings of a text that is laid over the defaults. -/
def ofText (text : String) : Except LoadError Settings := do
  let user ← (Json.read text).mapError .json
  (ofJson (default.toJson.merge user)).mapError .shape

def ofFile (path : String) : File → Except LoadError Settings
  | .missing => .ok default
  | .directory => .error (.isDirectory path)
  | .content bytes =>
    match String.fromUTF8? bytes with
    | some text => ofText text
    | none => .error (.notText path)

/-- The settings of all three layers, and what was reported about the environment. -/
def load (path : String) (file : File) (env : Environment) :
    Except LoadError (Settings × List Telemetry.Entry) := do
  let (s, reports) := overridden env (← ofFile path file)
  check s
  return (s, reports)

end EventFeed.Settings
