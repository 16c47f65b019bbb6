import Switchboard.Duration.Basic
import Switchboard.Machine.Reading

/-!
# Settings

The settings of a frontend: those of its registry and those of its log output. Every setting has a
default.
-/

namespace Switchboard

/-- How often a new log file is begun. -/
inductive Rotation
  | never | hourly | daily
  deriving DecidableEq

namespace Rotation

/-- Every rotation. -/
def all : List Rotation := [.never, .hourly, .daily]

/-- The name of the rotation in settings files. -/
def name : Rotation → String
  | .never => "never"
  | .hourly => "hourly"
  | .daily => "daily"

/-- The rotation with a given name. -/
def ofName? (s : String) : Option Rotation := all.find? (·.name == s)

/-- A rotation is found by its name. -/
theorem ofName?_name (r : Rotation) : ofName? r.name = some r := by cases r <;> decide

end Rotation

/-- The settings of the registry. -/
structure RegistrySettings where
  /-- How many mappings there is room for at first. -/
  initialCapacity : UInt64 := 64
  /-- The machine that the frontend runs as. -/
  machine : Machine := default
  /-- How long a run may go on before there is a warning; zero for no warnings. -/
  stallWarning : Duration := .halfMinute
  deriving DecidableEq

/-- The settings of log output. -/
structure LogSettings where
  /-- Which notices are shown, as filter directives. -/
  level : String := "info"
  /-- The directory of log files; without one there are none. -/
  directory : Option String := none
  /-- What the names of log files begin with. -/
  fileStem : String := "uiactions"
  /-- How often a new log file is begun. -/
  rotation : Rotation := .daily
  /-- How many log files are kept. -/
  maxFiles : UInt64 := 10
  deriving DecidableEq

/-- The settings of a frontend. -/
structure Settings where
  /-- The settings of the registry. -/
  registry : RegistrySettings := {}
  /-- The settings of log output. -/
  log : LogSettings := {}
  deriving DecidableEq

instance : Inhabited Settings := ⟨{}⟩

end Switchboard
