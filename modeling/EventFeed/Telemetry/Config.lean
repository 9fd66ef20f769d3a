import EventFeed.Settings.Basic
import EventFeed.Telemetry.Level
import EventFeed.Text.Blank
import EventFeed.Text.Word

/-!
# Telemetry configuration
-/

namespace EventFeed.Telemetry

namespace Level

/-- A level by its number or its name. -/
def ofText? (s : String) : Option Level :=
  let byName := all.find? fun l ↦ Text.asciiLower s.toList = l.lowerName.toList
  match Text.word? s with
  | some n => (all.find? (·.verbosity = n)).or byName
  | none => byName

end Level

structure Config where
  level : Level
  /-- Levels for parts of the program, each by the start of its name. -/
  parts : List (String × Level)
  json : Bool
  captureRecent : Nat
  deriving DecidableEq

namespace Config

def default : Config := ⟨.info, [], false, 200⟩

/-- A level that is not known is `info`. -/
def ofSettings (s : Settings.Logging) : Config where
  level := (Level.ofText? s.level).getD .info
  parts := []
  json := s.json
  captureRecent := s.captureRecent.toNat

end Config

end EventFeed.Telemetry
