import Switchboard.Control
import Switchboard.Dialog
import Switchboard.Mapping

/-!
# What the frontend's own actions do

Four subsystems contribute mappings: machine control, speed, drives and hotkeys. Their handlers
are commands, kept as data: a change of the emulator's state, or a dialog with what accepting it
does. No action is contributed twice (`Domain.actions_nodup`).
-/

namespace Switchboard

/-- What a handler of the frontend's own does. -/
inductive Command
  /-- Turn warp on or off. -/
  | toggleWarp
  /-- Pause or resume. -/
  | togglePause
  /-- Advance one frame; from a running machine, only pause it. -/
  | advanceFrame
  /-- Empty all drives. -/
  | detachAll
  /-- Reset a drive, and finish. -/
  | resetDrive (unit : UInt8)
  /-- Reset the machine, and finish. -/
  | reset (kind : ResetKind)
  /-- Take the hotkeys from a source. -/
  | setHotkeys (source : HotkeySource)
  /-- Open a dialog. -/
  | openDialog (kind : DialogKind) (onAccept : OnAccept)
  deriving DecidableEq

/-- A subsystem that contributes mappings. -/
inductive Domain
  | system | speed | drive | hotkeys
  deriving DecidableEq

namespace Domain

/-- The subsystems, in the order in which they contribute. -/
def all : List Domain := [.system, .speed, .drive, .hotkeys]

/-- The name of the subsystem. -/
def name : Domain → String
  | .system => "system"
  | .speed => "speed"
  | .drive => "drive"
  | .hotkeys => "hotkeys"

/-- The subsystem with a given name. -/
def ofName? (s : String) : Option Domain := all.find? (·.name == s)

/-- A mapping that opens a dialog. -/
def dialogMapping (action : Action) (kind : DialogKind) (onAccept : OnAccept) :
    Mapping Command :=
  { action, handler := .openDialog kind onAccept, flags := Flags.none.asDialog }

/-- Machine control: leaving, the resets and the general dialogs. -/
def systemMappings : List (Mapping Command) :=
  [dialogMapping .quit .confirmQuit .quit,
   { action := .resetSoft, handler := .reset .soft, flags := Flags.none.blocking },
   { action := .resetHard, handler := .reset .hard, flags := Flags.none.blocking },
   dialogMapping .settingsDialog .settings .nothing,
   dialogMapping .aboutDialog .about .nothing,
   dialogMapping .monitorOpen .monitor .nothing]

/-- Speed and pause. -/
def speedMappings : List (Mapping Command) :=
  [{ action := .warpModeToggle, handler := .toggleWarp },
   { action := .pauseToggle, handler := .togglePause },
   { action := .advanceFrame, handler := .advanceFrame },
   dialogMapping .speedSettings .speedSettings .nothing]

/-- Attaching disk images, detaching them, and resetting drives. -/
def driveMappings : List (Mapping Command) :=
  [dialogMapping .driveAttach8 (.attachDisk 8) (.attachDisk 8),
   dialogMapping .driveAttach9 (.attachDisk 9) (.attachDisk 9),
   dialogMapping .driveAttach10 (.attachDisk 10) (.attachDisk 10),
   dialogMapping .driveAttach11 (.attachDisk 11) (.attachDisk 11),
   dialogMapping .smartAttach .smartAttach (.attachDisk firstDriveUnit),
   { action := .driveDetachAll, handler := .detachAll, flags := Flags.none.onUiThread },
   { action := .driveReset8, handler := .resetDrive 8, flags := Flags.none.blocking },
   { action := .driveReset9, handler := .resetDrive 9, flags := Flags.none.blocking },
   { action := .driveReset10, handler := .resetDrive 10, flags := Flags.none.blocking },
   { action := .driveReset11, handler := .resetDrive 11, flags := Flags.none.blocking }]

/-- Hotkey files. -/
def hotkeysMappings : List (Mapping Command) :=
  [dialogMapping .hotkeysLoad .loadHotkeys .loadHotkeys,
   dialogMapping .hotkeysSave .saveHotkeys .saveHotkeys,
   { action := .hotkeysClear, handler := .setHotkeys .empty, flags := Flags.none.onUiThread },
   { action := .hotkeysDefault, handler := .setHotkeys .default, flags := Flags.none.onUiThread }]

/-- The mappings that a subsystem contributes. -/
def mappings : Domain → List (Mapping Command)
  | .system => systemMappings
  | .speed => speedMappings
  | .drive => driveMappings
  | .hotkeys => hotkeysMappings

/-- The mappings of all subsystems, in order. -/
def allMappings : List (Mapping Command) := all.flatMap mappings

/-- No action is contributed twice. -/
theorem actions_nodup : (allMappings.map (·.action)).Nodup := by decide

end Domain

end Switchboard
