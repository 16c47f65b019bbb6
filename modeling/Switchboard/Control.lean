/-!
# The emulator as the frontend sees it

What the handlers of actions act on: warp and pause, the frames advanced by hand, the resets, the
disk images in the four drives and the set of hotkeys. Drive units are numbered from eight; a unit
that is not there has no image, is never reset and takes none.
-/

namespace Switchboard

/-- Where the current hotkeys came from. -/
inductive HotkeySource
  /-- The hotkeys that come with the frontend. -/
  | default
  /-- No hotkeys at all. -/
  | empty
  /-- A hotkey file. -/
  | file (path : String)
  deriving DecidableEq, Inhabited

/-- How the machine is reset. -/
inductive ResetKind
  | soft | hard
  deriving DecidableEq

/-- The word for a reset in log lines. -/
def ResetKind.label : ResetKind → String
  | .soft => "Soft"
  | .hard => "Hard"

/-- The number of the first drive unit. -/
def firstDriveUnit : UInt8 := 8

/-- The number of drive units. -/
def driveCount : Nat := 4

/-- The place of a drive unit among the drives. -/
def driveIndex? (unit : UInt8) : Option (Fin driveCount) :=
  if h : firstDriveUnit.toNat ≤ unit.toNat ∧ unit.toNat - firstDriveUnit.toNat < driveCount then
    some ⟨unit.toNat - firstDriveUnit.toNat, h.2⟩
  else none

/-- The state of the emulator that actions show and change. -/
structure Control where
  /-- The emulator runs as fast as it can. -/
  warp : Bool := false
  /-- The emulator stands still. -/
  paused : Bool := false
  /-- The user wants to leave. -/
  quitRequested : Bool := false
  /-- How many frames were advanced by hand. -/
  framesAdvanced : Nat := 0
  /-- How many times the machine was reset softly. -/
  softResets : Nat := 0
  /-- How many times the machine was switched off and on. -/
  hardResets : Nat := 0
  /-- How many times each drive was reset. -/
  driveResets : Vector Nat driveCount := .replicate driveCount 0
  /-- The disk image in each drive. -/
  drives : Vector (Option String) driveCount := .replicate driveCount none
  /-- Where the hotkeys came from. -/
  hotkeys : HotkeySource := .default
  /-- The file to which the hotkeys were last saved. -/
  hotkeysSavedTo : Option String := none

namespace Control

/-- Warp turned from on to off or back. -/
def toggleWarp (c : Control) : Control := { c with warp := !c.warp }

/-- Pause turned from on to off or back. -/
def togglePause (c : Control) : Control := { c with paused := !c.paused }

/-- Pause on or off. -/
def setPaused (c : Control) (on : Bool) : Control := { c with paused := on }

/-- One more frame advanced by hand. -/
def advanceFrame (c : Control) : Control := { c with framesAdvanced := c.framesAdvanced + 1 }

/-- One more reset of a kind. -/
def reset (c : Control) : ResetKind → Control
  | .soft => { c with softResets := c.softResets + 1 }
  | .hard => { c with hardResets := c.hardResets + 1 }

/-- The number of resets of a kind. -/
def resets (c : Control) : ResetKind → Nat
  | .soft => c.softResets
  | .hard => c.hardResets

/-- The user wants to leave. -/
def requestQuit (c : Control) : Control := { c with quitRequested := true }

/-- A disk image put into a drive, in place of what was in it. -/
def attachDisk (c : Control) (unit : UInt8) (image : String) : Control :=
  match driveIndex? unit with
  | some i => { c with drives := c.drives.set i (some image) }
  | none => c

/-- The disk image in a drive. -/
def attached (c : Control) (unit : UInt8) : Option String :=
  (driveIndex? unit).bind fun i => c.drives[i]

/-- All drives empty. -/
def detachAll (c : Control) : Control := { c with drives := .replicate driveCount none }

/-- One more reset of a drive. -/
def resetDrive (c : Control) (unit : UInt8) : Control :=
  match driveIndex? unit with
  | some i => { c with driveResets := c.driveResets.set i (c.driveResets[i] + 1) }
  | none => c

/-- The number of resets of a drive. -/
def driveResetCount (c : Control) (unit : UInt8) : Nat :=
  match driveIndex? unit with
  | some i => c.driveResets[i]
  | none => 0

/-- Hotkeys from another source. -/
def setHotkeys (c : Control) (source : HotkeySource) : Control := { c with hotkeys := source }

/-- The file to which the hotkeys were saved. -/
def noteHotkeysSaved (c : Control) (path : String) : Control :=
  { c with hotkeysSavedTo := some path }

end Control

end Switchboard
