import Switchboard.Machine

/-!
# The catalog of actions

Every action a user can ask for has an identifier, a name under which hotkey files know it, a
description and the set of machines that offer it. One identifier is reserved for "no action": it
has an entry in the catalog but can be neither registered nor triggered.

An identifier is persisted in two ways, as its name and as its raw number. `ofName?_eq_some_iff`
and `ofRaw?_eq_some_iff` say that both are read back exactly: a text or a number stands for an
action only if it is the one the action is written as.
-/

namespace Switchboard

/-- An action of the user interface. -/
inductive Action
  | reserved | quit | settingsDialog | aboutDialog | monitorOpen | resetSoft | resetHard
  | pauseToggle | advanceFrame | warpModeToggle | speedSettings | fullscreenToggle
  | restoreDisplay | smartAttach | driveAttach8 | driveAttach9 | driveAttach10 | driveAttach11
  | driveDetachAll | driveReset8 | driveReset9 | driveReset10 | driveReset11 | tapeAttach1
  | tapeDetach1 | cartAttach | cartDetach | snapshotLoad | snapshotSave | snapshotQuickload
  | snapshotQuicksave | screenshotQuicksave | hotkeysLoad | hotkeysSave | hotkeysClear
  | hotkeysDefault | psidLoad
  deriving DecidableEq

/-- What the catalog says of an action. -/
structure Descriptor where
  /-- The identifier of the action as descriptions write it. -/
  label : String
  /-- The name of the action in hotkey files. -/
  name : String
  /-- What the action does, for people. -/
  description : String
  /-- The machines on which the action is offered. -/
  machines : MachineSet

namespace Action

instance : Inhabited Action := ⟨.reserved⟩

/-- Every identifier, the reserved one first, in order of raw numbers. -/
def all : List Action :=
  [.reserved, .quit, .settingsDialog, .aboutDialog, .monitorOpen, .resetSoft, .resetHard,
   .pauseToggle, .advanceFrame, .warpModeToggle, .speedSettings, .fullscreenToggle,
   .restoreDisplay, .smartAttach, .driveAttach8, .driveAttach9, .driveAttach10, .driveAttach11,
   .driveDetachAll, .driveReset8, .driveReset9, .driveReset10, .driveReset11, .tapeAttach1,
   .tapeDetach1, .cartAttach, .cartDetach, .snapshotLoad, .snapshotSave, .snapshotQuickload,
   .snapshotQuicksave, .screenshotQuicksave, .hotkeysLoad, .hotkeysSave, .hotkeysClear,
   .hotkeysDefault, .psidLoad]

/-- The number of identifiers, the reserved one included. -/
def count : Nat := 37

/-- The catalog. -/
def descriptor : Action → Descriptor
  | .reserved => ⟨"None", "none", "No action", .empty⟩
  | .quit => ⟨"Quit", "quit", "Quit emulator", .all⟩
  | .settingsDialog => ⟨"SettingsDialog", "settings-dialog", "Open settings", .all⟩
  | .aboutDialog => ⟨"AboutDialog", "about-dialog", "Show the about dialog", .all⟩
  | .monitorOpen => ⟨"MonitorOpen", "monitor-open", "Open the machine code monitor", .all⟩
  | .resetSoft => ⟨"ResetSoft", "reset-soft", "Soft-reset the machine", .all⟩
  | .resetHard => ⟨"ResetHard", "reset-hard", "Hard-reset the machine", .all⟩
  | .pauseToggle => ⟨"PauseToggle", "pause-toggle", "Pause or unpause the emulation", .all⟩
  | .advanceFrame => ⟨"AdvanceFrame", "advance-frame", "Advance emulation one frame", .noVsid⟩
  | .warpModeToggle => ⟨"WarpModeToggle", "warp-mode-toggle", "Toggle warp mode", .all⟩
  | .speedSettings => ⟨"SpeedSettings", "speed-settings", "Open the emulation speed settings", .all⟩
  | .fullscreenToggle => ⟨"FullscreenToggle", "fullscreen-toggle", "Toggle fullscreen", .noVsid⟩
  | .restoreDisplay => ⟨"RestoreDisplay", "restore-display", "Resize application window to fit contents", .noVsid⟩
  | .smartAttach => ⟨"SmartAttach", "smart-attach", "Attach a medium to the emulator", .noVsid⟩
  | .driveAttach8 => ⟨"DriveAttach8", "drive-attach-8:0", "Attach disk image to unit 8", .noVsid⟩
  | .driveAttach9 => ⟨"DriveAttach9", "drive-attach-9:0", "Attach disk image to unit 9", .noVsid⟩
  | .driveAttach10 => ⟨"DriveAttach10", "drive-attach-10:0", "Attach disk image to unit 10", .noVsid⟩
  | .driveAttach11 => ⟨"DriveAttach11", "drive-attach-11:0", "Attach disk image to unit 11", .noVsid⟩
  | .driveDetachAll => ⟨"DriveDetachAll", "drive-detach-all", "Detach all disk images", .noVsid⟩
  | .driveReset8 => ⟨"DriveReset8", "drive-reset-8", "Reset drive 8", .noVsid⟩
  | .driveReset9 => ⟨"DriveReset9", "drive-reset-9", "Reset drive 9", .noVsid⟩
  | .driveReset10 => ⟨"DriveReset10", "drive-reset-10", "Reset drive 10", .noVsid⟩
  | .driveReset11 => ⟨"DriveReset11", "drive-reset-11", "Reset drive 11", .noVsid⟩
  | .tapeAttach1 => ⟨"TapeAttach1", "tape-attach-1", "Attach tape image to datasette 1", .tape⟩
  | .tapeDetach1 => ⟨"TapeDetach1", "tape-detach-1", "Detach tape image from datasette 1", .tape⟩
  | .cartAttach => ⟨"CartAttach", "cart-attach", "Attach cartridge image", .cartridge⟩
  | .cartDetach => ⟨"CartDetach", "cart-detach", "Detach cartridge image", .cartridge⟩
  | .snapshotLoad => ⟨"SnapshotLoad", "snapshot-load", "Load snapshot file", .noVsid⟩
  | .snapshotSave => ⟨"SnapshotSave", "snapshot-save", "Save snapshot file", .noVsid⟩
  | .snapshotQuickload => ⟨"SnapshotQuickload", "snapshot-quickload", "Quickload snapshot", .noVsid⟩
  | .snapshotQuicksave => ⟨"SnapshotQuicksave", "snapshot-quicksave", "Quicksave snapshot", .noVsid⟩
  | .screenshotQuicksave => ⟨"ScreenshotQuicksave", "screenshot-quicksave", "Quicksave screenshot", .noVsid⟩
  | .hotkeysLoad => ⟨"HotkeysLoad", "hotkeys-load", "Load hotkeys from a file", .all⟩
  | .hotkeysSave => ⟨"HotkeysSave", "hotkeys-save", "Save hotkeys to a file", .all⟩
  | .hotkeysClear => ⟨"HotkeysClear", "hotkeys-clear", "Clear all hotkeys", .all⟩
  | .hotkeysDefault => ⟨"HotkeysDefault", "hotkeys-default", "Restore the default hotkeys", .all⟩
  | .psidLoad => ⟨"PsidLoad", "psid-load", "Load PSID file", (.ofList [.vsid])⟩

/-- The identifier as descriptions write it. -/
def label (a : Action) : String := a.descriptor.label

/-- The name of the action in hotkey files. -/
def name (a : Action) : String := a.descriptor.name

/-- What the action does, for people. -/
def description (a : Action) : String := a.descriptor.description

/-- The machines on which the action is offered. -/
def machines (a : Action) : MachineSet := a.descriptor.machines

/-- Whether a machine offers the action. -/
def isSupportedBy (a : Action) (m : Machine) : Bool := a.machines.contains m

/-- Every identifier but the reserved one names a real action. -/
def isReal (a : Action) : Bool := a != .reserved

/-- The raw number of the action, which is its place in `all`. -/
def raw (a : Action) : Fin count := ⟨a.ctorIdx, by cases a <;> decide⟩

/-- The identifier with a raw number. -/
def ofRaw? (n : Nat) : Option Action := all[n]?

/-- The identifier with a name, which has to match letter for letter. -/
def ofName? (s : String) : Option Action := all.find? (·.name == s)

/-- The real action with a raw number; the reserved number stands for none. -/
def ofRealRaw? (n : Nat) : Option Action := (ofRaw? n).filter isReal

/-- The real actions that a machine offers, in order of raw numbers. -/
def supportedBy (m : Machine) : List Action := (all.drop 1).filter (·.isSupportedBy m)

/-- Every action is in the list. -/
theorem mem_all (a : Action) : a ∈ all := by cases a <;> decide

/-- No identifier is listed twice. -/
theorem nodup_all : all.Nodup := by decide

/-- The list is as long as there are actions. -/
theorem length_all : all.length = count := rfl

/-- An action is found by its number. -/
theorem ofRaw?_raw (a : Action) : ofRaw? a.raw = some a := by cases a <;> rfl

/-- No two actions have one number. -/
theorem raw_injective {a b : Action} (h : a.raw = b.raw) : a = b := by
  have := ofRaw?_raw a
  rw [h, ofRaw?_raw] at this
  exact (Option.some.inj this).symm

/-- An action is found by its name. -/
theorem ofName?_name (a : Action) : ofName? a.name = some a := by cases a <;> rfl

/-- A text is read as an action exactly when it is the action's name. -/
theorem ofName?_eq_some_iff {s : String} {a : Action} : ofName? s = some a ↔ a.name = s := by
  constructor
  · intro h
    have := List.find?_some h
    simpa using this
  · rintro rfl
    exact ofName?_name a

/-- A number is read as an action exactly when it is the action's raw number. -/
theorem ofRaw?_eq_some_iff {n : Nat} {a : Action} : ofRaw? n = some a ↔ a.raw.val = n := by
  constructor
  · intro h
    have hn : n < count := by
      rw [← length_all]; exact (List.getElem?_eq_some_iff.1 h).1
    have key : ∀ i : Fin count, ∀ b, ofRaw? i = some b → b.raw = i := by decide
    exact congrArg Fin.val (key ⟨n, hn⟩ a h)
  · rintro rfl
    exact ofRaw?_raw a

end Action

end Switchboard
