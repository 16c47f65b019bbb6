import Switchboard.Dialog
import Switchboard.Control
import Switchboard.Error
import Switchboard.Machine.Reading

/-!
# Notices

Everything the library reports while it works is a notice: what happened, as a value. How severe it
is and how it reads in a log are functions of the notice, in one place.
-/

namespace Switchboard

/-- How severe a notice is. -/
inductive Level
  | error | warn | info | debug | trace
  deriving DecidableEq

/-- The name of the level. -/
def Level.name : Level → String
  | .error => "error"
  | .warn => "warn"
  | .info => "info"
  | .debug => "debug"
  | .trace => "trace"

/-- Something that happened. -/
inductive Notice
  /-- A registry was made. -/
  | created (capacity : Nat)
  /-- A registry that holds mappings is about to be emptied. -/
  | reinitializing
  /-- A registry was emptied. -/
  | shutDown (released : Nat)
  /-- A dispatcher was set where there was none. -/
  | dispatcherInstalled
  /-- A dispatcher was set where there was one. -/
  | dispatcherReplaced
  /-- A mapping for the reserved identifier was offered. -/
  | reservedOffered
  /-- A mapping was added to a full table. -/
  | grown (capacity : Nat)
  /-- A list of mappings was gone through. -/
  | registered (added rejected total : Nat)
  /-- An action was held back because the machine does not offer it. -/
  | unavailable (action : Action) (machine : Machine)
  /-- A request or an offer was refused with an error. -/
  | failed (error : ActionError)
  /-- A request was dropped because the action is in flight. -/
  | busy (action : Action)
  /-- A request was dropped because a dialog is open. -/
  | dialogActive (owner action : Action)
  /-- An accepted request goes to the dispatcher. -/
  | dispatching (action : Action)
  /-- An accepted request is run at once. -/
  | running (action : Action)
  /-- An invocation of an earlier epoch was finished. -/
  | staleFinish (action : Action)
  /-- An action without mapping was finished. -/
  | unknownFinish (action : Action)
  /-- A run came to its end. -/
  | finished (action : Action)
  /-- An action that was not running was finished. -/
  | idleFinish (action : Action)
  /-- An invocation was finished whose registry is gone. -/
  | orphanFinish (action : Action)
  /-- The head of the listing of a table. -/
  | summary (count : Nat) (owner : Option Action)
  /-- One line of the listing of a table. -/
  | listed (action : Action) (flags : Flags) (busy : Bool)
  /-- An invocation was sent to a queue that no one empties. -/
  | queueClosed (action : Action)
  /-- The UI thread took an invocation out of its queue. -/
  | uiRunning (action : Action)
  /-- A dialog was closed. -/
  | dialogClosed (kind : DialogKind) (outcome : DialogOutcome)
  /-- Warp was turned on or off. -/
  | warp (on : Bool)
  /-- The emulation was paused or resumed. -/
  | emulation (paused : Bool)
  /-- A disk image goes into a drive. -/
  | attaching (image : String) (unit : UInt8)
  /-- A dialog for a disk image was accepted without one. -/
  | attachWithoutFile (unit : UInt8)
  /-- All drives are emptied. -/
  | detachingAll
  /-- A drive is reset. -/
  | resettingDrive (unit : UInt8)
  /-- The machine is reset. -/
  | resetting (kind : ResetKind)
  /-- Hotkeys are taken from a file. -/
  | loadingHotkeys (path : String)
  /-- Hotkeys go to a file. -/
  | savingHotkeys (path : String)
  /-- A dialog for a hotkey file was accepted without one. -/
  | noHotkeyFile
  /-- The user has confirmed to leave. -/
  | quitConfirmed
  /-- A run that was told to be stalled is over. -/
  | stallEnded (action : Action)
  /-- A run has gone on for too long. -/
  | stalled (action : Action) (runningFor : Nat)
  /-- The run that has gone on for too long holds the dialog slot. -/
  | dialogsBlocked (action : Action)
  /-- Settings are read from a file. -/
  | loadingSettings (path : String)
  /-- There is no settings file, so one with the defaults is written. -/
  | noSettings (path : String)
  /-- Settings are written to a file. -/
  | savingSettings (path : String)
  deriving DecidableEq

/-- Milliseconds as seconds with one decimal, a half going to the even neighbour. -/
def tenthsOfSeconds (ms : Nat) : String :=
  let down := ms / 100
  let up := ms % 100 > 50 || (ms % 100 == 50 && down % 2 == 1)
  let tenths := if up then down + 1 else down
  s!"{tenths / 10}.{tenths % 10}"

namespace Notice

/-- How severe the notice is. -/
def level : Notice → Level
  | .reservedOffered | .failed _ | .unknownFinish _ => .error
  | .dispatcherReplaced | .queueClosed _ | .attachWithoutFile _ | .noHotkeyFile | .stalled _ _
  | .dialogsBlocked _ => .warn
  | .created _ | .reinitializing | .shutDown _ | .warp _ | .emulation _ | .attaching _ _
  | .detachingAll | .resettingDrive _ | .resetting _ | .loadingHotkeys _ | .savingHotkeys _
  | .quitConfirmed | .stallEnded _ | .loadingSettings _ | .noSettings _ | .savingSettings _ => .info
  | .uiRunning _ => .trace
  | .dispatcherInstalled | .grown _ | .registered _ _ _ | .unavailable _ _ | .busy _
  | .dialogActive _ _ | .dispatching _ | .running _ | .staleFinish _ | .finished _ | .idleFinish _
  | .orphanFinish _ | .summary _ _ | .listed _ _ _ | .dialogClosed _ _ => .debug

/-- The notice as a line of a log, given how a time in milliseconds is written. -/
def textWith (seconds : Nat → String) : Notice → String
  | .created capacity => s!"ActionRegistry initialized with capacity {capacity}"
  | .reinitializing => "Re-initializing populated ActionRegistry"
  | .shutDown released => s!"ActionRegistry shut down ({released} mappings released)"
  | .dispatcherInstalled => "UI dispatcher installed"
  | .dispatcherReplaced => "UI dispatcher replaced"
  | .reservedOffered => "Refusing to register the reserved 'none' action"
  | .grown capacity => s!"Action table grown to capacity {capacity}"
  | .registered added rejected total =>
    s!"Registered {added} actions ({rejected} rejected), {total} total"
  | .unavailable action machine => s!"'{action.name}' not available on {machine.label}"
  | .failed error => error.message
  | .busy action => s!"Action '{action.name}' busy, trigger dropped"
  | .dialogActive owner action =>
    s!"Dialog '{owner.name}' active, trigger of '{action.name}' dropped"
  | .dispatching action => s!"Dispatching '{action.name}' to the UI thread"
  | .running action => s!"Running '{action.name}'"
  | .staleFinish action => s!"Stale finish of '{action.name}' from a previous table ignored"
  | .unknownFinish action =>
    let error := ActionError.unknownAction action
    s!"Finish: {error.message}"
  | .finished action => s!"Action '{action.name}' finished"
  | .idleFinish action => s!"Action '{action.name}' was not running, finish ignored"
  | .orphanFinish action => s!"Registry gone, finish of '{action.name}' ignored"
  | .summary count owner =>
    let holder := match owner with
      | some a => s!"Some({Text.quote a.name})"
      | none => "None"
    s!"{count} actions registered, dialog owner: {holder}"
  | .listed action flags inFlight =>
    let name := action.name.pushn ' ' (24 - action.name.length)
    s!"  {name} [{flags.render}] busy={inFlight} {action.description}"
  | .queueClosed action => s!"UI queue closed, action '{action.name}' released without running"
  | .uiRunning action => s!"UI thread running '{action.name}'"
  | .dialogClosed kind outcome => s!"Dialog '{kind.name}' closed: {outcome.inspect}"
  | .warp on => if on then "Warp mode on" else "Warp mode off"
  | .emulation paused => if paused then "Emulation paused" else "Emulation resumed"
  | .attaching image unit => s!"Attaching {image} to unit {unit.toNat}"
  | .attachWithoutFile unit => s!"Attach dialog for unit {unit.toNat} accepted without a file"
  | .detachingAll => "Detaching all disk images"
  | .resettingDrive unit => s!"Resetting drive {unit.toNat}"
  | .resetting kind => s!"{kind.label} reset"
  | .loadingHotkeys path => s!"Loading hotkeys from {path}"
  | .savingHotkeys path => s!"Saving hotkeys to {path}"
  | .noHotkeyFile => "No hotkey file selected"
  | .quitConfirmed => "Quit confirmed"
  | .stallEnded action => s!"Action '{action.name}' finished after stall warning"
  | .stalled action runningFor =>
    s!"Action '{action.name}' has been running for {seconds runningFor}s without finish; it will ignore triggers until finished"
  | .dialogsBlocked action => s!"All dialog actions are blocked by '{action.name}'"
  | .loadingSettings path => s!"Loading config from {path}"
  | .noSettings path =>
    s!"No config file found at {path}, using default configuration. Creating it now."
  | .savingSettings path => s!"Saving config to {path}"

/-- The notice as a line of a log. -/
def text (n : Notice) : String := n.textWith tenthsOfSeconds

end Notice

end Switchboard
