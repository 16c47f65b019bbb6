import Switchboard.Registry.Basic
import Switchboard.Text.Quoted

/-!
# Dialogs

A dialog action asks for a dialog to be opened, and with it goes the invocation, which is finished
when the dialog is closed. What accepting a dialog does is one of a few things, `OnAccept`.
-/

namespace Switchboard

/-- The dialogs of the frontend. -/
inductive DialogKind
  | settings | about | monitor | confirmQuit | speedSettings
  /-- Choose a disk image for a drive unit. -/
  | attachDisk (unit : UInt8)
  | smartAttach | loadHotkeys | saveHotkeys
  deriving DecidableEq

namespace DialogKind

/-- The name of the dialog. -/
def name : DialogKind → String
  | .settings => "settings"
  | .about => "about"
  | .monitor => "monitor"
  | .confirmQuit => "confirm-quit"
  | .speedSettings => "speed-settings"
  | .attachDisk unit => s!"attach-disk-{unit.toNat}"
  | .smartAttach => "smart-attach"
  | .loadHotkeys => "load-hotkeys"
  | .saveHotkeys => "save-hotkeys"

/-- The dialog as descriptions of requests write it. -/
def inspect : DialogKind → String
  | .settings => "Settings"
  | .about => "About"
  | .monitor => "Monitor"
  | .confirmQuit => "ConfirmQuit"
  | .speedSettings => "SpeedSettings"
  | .attachDisk unit => s!"AttachDisk \x7b unit: {unit.toNat} \x7d"
  | .smartAttach => "SmartAttach"
  | .loadHotkeys => "LoadHotkeys"
  | .saveHotkeys => "SaveHotkeys"

end DialogKind

/-- How the user left a dialog. -/
inductive DialogOutcome
  /-- Without choosing anything. -/
  | cancelled
  /-- With a file, or with nothing to choose. -/
  | accepted (path : Option String)
  deriving DecidableEq

/-- The outcome as log lines write it. -/
def DialogOutcome.inspect : DialogOutcome → String
  | .cancelled => "Cancelled"
  | .accepted none => "Accepted(None)"
  | .accepted (some path) => s!"Accepted(Some({Text.quote path}))"

/-- What happens when a dialog is accepted. -/
inductive OnAccept
  /-- Nothing. -/
  | nothing
  /-- The acceptance is recorded. -/
  | record
  /-- The chosen disk image goes into a drive. -/
  | attachDisk (unit : UInt8)
  /-- The hotkeys are taken from the chosen file. -/
  | loadHotkeys
  /-- The hotkeys go to the chosen file. -/
  | saveHotkeys
  /-- The user has confirmed to leave. -/
  | quit
  deriving DecidableEq

/-- A dialog that is to be opened, or is open. -/
structure DialogRequest (H : Type) where
  /-- Which dialog. -/
  kind : DialogKind
  /-- The invocation that asked for it, and is finished when it is closed. -/
  invocation : Invocation H
  /-- What happens when it is accepted. -/
  onAccept : OnAccept := .nothing

namespace DialogRequest

/-- A one-line description of the request of an action for a dialog. -/
def describe (kind : DialogKind) (action : Action) : String :=
  s!"DialogRequest \x7b kind: {kind.inspect}, action: {action.label}, .. \x7d"

end DialogRequest

end Switchboard
