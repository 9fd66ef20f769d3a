import EventFeed.Frame.Control
import EventFeed.Settings.Load

/-!
# Options

What a user asks for when a feed is followed. An option is a name and a value, as two arguments or
as one with `=` between them; only topics may be given more than once.
-/

namespace EventFeed.Follow

structure Options where
  /-- The address, where it is not the one of the settings. -/
  url : Option String
  token : Option String
  /-- More topics than those every session starts with. -/
  topics : List Topic
  /-- The place of the settings file. -/
  settings : Option String
  deriving DecidableEq

inductive UsageError where
  | unexpected (argument : String)
  | repeated (name : String)
  | noValue (name : String)
  deriving DecidableEq

def UsageError.message : UsageError → String
  | .unexpected argument => "unexpected argument '" ++ argument ++ "' found"
  | .repeated name => "the argument '" ++ name ++ "' cannot be used multiple times"
  | .noValue name => "a value is required for '" ++ name ++ "' but none was supplied"

namespace Options

def none : Options := ⟨.none, .none, [], .none⟩

def once (name value : String) : Option String → Except UsageError (Option String)
  | .none => .ok (some value)
  | some _ => .error (.repeated name)

def add (o : Options) (name value : String) : Except UsageError Options :=
  match name with
  | "--url" => do return { o with url := ← once name value o.url }
  | "--token" => do return { o with token := ← once name value o.token }
  | "--topic" => .ok { o with topics := o.topics ++ [value] }
  | "--settings" => do return { o with settings := ← once name value o.settings }
  | _ => .error (.unexpected name)

def parseFrom (o : Options) : List String → Except UsageError Options
  | [] => .ok o
  | argument :: rest =>
    let name := argument.toList.takeWhile (· ≠ '=')
    match argument.toList.drop name.length, rest with
    | _ :: value, rest => do
      let o ← o.add (String.ofList name) (String.ofList value)
      o.parseFrom rest
    | [], [] => do
      discard <| o.add argument ""
      .error (.noValue argument)
    | [], value :: rest => do
      let o ← o.add argument value
      o.parseFrom rest

def parse (arguments : List String) : Except UsageError Options := none.parseFrom arguments

/-- The settings with the address that was asked for. -/
def applyTo (o : Options) (s : Settings) : Except Settings.LoadError Settings := do
  match o.url with
  | .none => return s
  | some url =>
    let s := { s with client := { s.client with url } }
    Settings.check s
    return s

end Options

end EventFeed.Follow
