import EventFeed.Follow
import Std.Time

/-!
# The command line

Follows a feed whose frames come from the standard input, one on each line, until it ends.
-/

namespace EventFeed.Follow

open Notification (Stamp)

/-- The time now, from the clock of the system. -/
def clock : IO Time.Instant := do
  let t := Std.Time.DateTime.ofTimestamp (← Std.Time.Timestamp.now) .UTC
  return {
    year := Fin.ofNat 10000 t.year.toInt.toNat
    month := Fin.ofNat 13 t.month.val.toNat
    day := Fin.ofNat 32 t.day.val.toNat
    hour := Fin.ofNat 24 t.hour.val.toNat
    minute := Fin.ofNat 60 t.minute.val.toNat
    second := Fin.ofNat 61 t.second.val.toNat
    nanos := Fin.ofNat 1000000000 t.nanosecond.val.toNat }

/-- A text that no other run has. -/
def unique : IO String := do
  let bytes ← IO.getRandomBytes 16
  return String.ofList (bytes.toList.flatMap fun b ↦
    [Nat.digitChar (b.toNat / 16), Nat.digitChar (b.toNat % 16)])

def stamps (run : String) (time : Time.Instant) (n : Nat) : Stamp :=
  ⟨run ++ "-" ++ (Json.nat n).print, time⟩

def readFile (path : String) : IO Settings.File := do
  try
    return .content (← IO.FS.readBinFile path)
  catch
    | .noFileOrDirectory .. => return .missing
    | .inappropriateType .. => return .directory
    | e => throw e

def environment : IO Settings.Environment := do
  let values ← Settings.Override.all.mapM fun o ↦ do return (o.name, ← IO.getEnv o.name)
  return fun name ↦ (values.lookup name).join

def orFail (context : String) (message : ε → String) : Except ε α → IO α
  | .ok a => return a
  | .error e => throw (IO.userError (context ++ message e))

def printAll (lines : List String) : IO Unit := do
  for line in lines do IO.println line
  (← IO.getStdout).flush

/-- Shows what is new. -/
def shown (time : Time.Instant) (f : Follow) : IO Follow := do
  let (lines, f) := f.flush time
  printAll lines
  return f

/-- Takes one line after the other; `before` is the time of the last one in milliseconds. -/
partial def lines (run : String) (before : Nat) (f : Follow) : IO Follow := do
  let line ← (← IO.getStdin).getLine
  let now ← IO.monoMsNow
  let time ← clock
  let f := f.wait (stamps run time) (now - before)
  if line = "" then return f
  let text := String.ofList (line.toList.filter fun c ↦ c ≠ '\n' && c ≠ '\r')
  lines run now (← shown time (f.receive (stamps run time) text))

end EventFeed.Follow

open EventFeed EventFeed.Follow

def main (arguments : List String) : IO Unit := do
  let given ← orFail "" (·.message) (Options.parse arguments)
  let options := { given with token := given.token.or (← IO.getEnv "CASEFEED_TOKEN") }
  let path := options.settings.getD (Settings.path (← IO.getEnv "HOME"))
  let (loaded, reports) ← orFail "Failed to load settings: " (·.message)
    (Settings.load path (← readFile path) (← environment))
  let settings ← orFail "Invalid --url: " (·.message) (options.applyTo loaded)
  let run ← unique
  let time ← clock
  let f := Follow.start settings options
  let f := { f with pipeline := (f.pipeline.report reports).settle (stamps run time) }
  let f ← lines run (← IO.monoMsNow) (← shown time f)
  let time ← clock
  let f ← shown time (f.finish (stamps run time))
  printAll f.summary
