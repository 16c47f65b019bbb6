import Switchboard.Action
import Switchboard.IoError
import Switchboard.Text.Quoted

/-!
# What can go wrong

The registry never fails: it puts up with a bad request and says so in a notice. The errors that
those notices quote, and the ones that reading names, settings and log set-up really return, are
the constructors of one type. Their wording is in `ActionError.message` alone.
-/

namespace Switchboard

/-- Why a text is no settings file. -/
inductive SettingsError
  /-- The text is no document of the configuration language. -/
  | malformed
  /-- The document is good, but a value in it is not one that its key takes. -/
  | refused (reason : String)
  deriving DecidableEq

/-- The reason as messages write it; where a text is malformed is not kept. -/
def SettingsError.message : SettingsError → String
  | .malformed => "malformed document"
  | .refused reason => reason

/-- Why the action subsystem refused something. -/
inductive ActionError
  /-- Nothing is registered for the action. -/
  | unknownAction (action : Action)
  /-- The text is the name of no action. -/
  | unknownName (name : String)
  /-- The number is that of no real action. -/
  | invalidId (raw : Nat)
  /-- The action has a mapping already, which stays. -/
  | alreadyRegistered (action : Action)
  /-- The action has to run on the UI thread and nothing leads there. -/
  | noDispatcher (action : Action)
  /-- The settings file could not be read or written. -/
  | settingsFile (path : String) (cause : IoError)
  /-- The settings file does not hold settings. -/
  | settingsText (cause : SettingsError)
  /-- There is no directory for settings. -/
  | noSettingsDirectory
  /-- Log output could not be set up. -/
  | logSetup (reason : String)
  /-- Some other failure of input or output. -/
  | io (cause : IoError)
  deriving DecidableEq

namespace ActionError

/-- The error as logs and reports write it. -/
def message : ActionError → String
  | .unknownAction action => s!"No handler registered for action '{action.name}'"
  | .unknownName name => s!"Unknown action name: {Text.quote name}"
  | .invalidId raw => s!"Invalid action id: {raw}"
  | .alreadyRegistered action => s!"Action '{action.name}' is already registered"
  | .noDispatcher action => s!"No UI dispatcher set, cannot run action '{action.name}'"
  | .settingsFile path cause =>
    s!"Failed to access config file {Text.quote path}: {cause.message}"
  | .settingsText cause => s!"Config parse error: {cause.message}"
  | .noSettingsDirectory => "Could not determine config directory"
  | .logSetup reason => s!"Logging setup failed: {reason}"
  | .io cause => s!"I/O error: {cause.message}"

/-- The action that the error is about, if it is about one. -/
def action? : ActionError → Option Action
  | .unknownAction action | .alreadyRegistered action | .noDispatcher action => some action
  | _ => none

/-- The failure of input or output behind the error, if there is one. -/
def source? : ActionError → Option IoError
  | .settingsFile _ cause | .io cause => some cause
  | _ => none

end ActionError

namespace Action

/-- The action with a given name, or an error that carries the text. -/
def parse (s : String) : Except ActionError Action :=
  match ofName? s with
  | some a => .ok a
  | none => .error (.unknownName s)

/-- The real action with a given number, or an error that carries the number. -/
def checkRaw (n : Nat) : Except ActionError Action :=
  match ofRealRaw? n with
  | some a => .ok a
  | none => .error (.invalidId n)

end Action

end Switchboard
