import Switchboard.Domain
import Switchboard.Notice
import Switchboard.Registry.Admission
import Switchboard.Registry.Enrolment
import Switchboard.UiQueue
import Switchboard.Watchdog

/-!
# The state of a frontend

A frontend is a registry together with all that its handlers and dispatchers act on: the emulator,
the dialogs that are open, the queues to the UI thread, the invocations that someone has put aside,
a clock, and a record of what happened. Handlers are data, either a command of the frontend's own or
a script, so that the whole state is a value.

Of the filter of log output there is what it says of each level, since commands of the frontend's own
may depend on that, and nothing of filters for single parts of the program. The program around the
library, its command line and its demonstration, is left out.
-/

namespace Switchboard

mutual

/-- What carries an action out. Scripts have a tag of type `T`, by which a record tells them. -/
inductive Handler (T : Type)
  /-- A command of the frontend's own. -/
  | command (c : Command)
  /-- A script of steps, done in order. -/
  | script (tag : T) (steps : List (ScriptStep T))

/-- One step of a script. The script runs for an invocation, and most steps are about it. -/
inductive ScriptStep (T : Type)
  /-- Finish the invocation. -/
  | finish
  /-- Put the invocation aside. -/
  | park
  /-- Open a dialog for the invocation; if it is accepted, record that or do nothing. -/
  | openDialog (kind : DialogKind) (record : Bool)
  /-- Use the registry that the invocation came from, if it is there still. -/
  | onRegistry (name : String) (use : RegistryStep T)
  /-- A step that makes no sense. -/
  | malformed (text : T)

/-- What a script does with a registry. -/
inductive RegistryStep (T : Type)
  /-- Request an action. -/
  | trigger (action : Action)
  /-- Finish an action. -/
  | finish (action : Action)
  /-- Add mappings. -/
  | register (mappings : List (Mapping (Handler T)))
  /-- Start over with an empty table. -/
  | restart
  /-- Empty the table. -/
  | shutdown
  /-- Record the state of the registry. -/
  | state
  /-- A step that makes no sense. -/
  | malformed (text : T)

end

instance {T : Type} : Inhabited (ScriptStep T) := ⟨.finish⟩

/-- What an accepted request that needs the UI thread is handed to. -/
inductive Dispatcher
  /-- A sender of a queue. -/
  | queue (number : Nat)
  /-- The invocation is put aside. -/
  | park
  /-- The handler runs at once. -/
  | runNow
  /-- The invocation is finished without running. -/
  | release
  /-- The invocation is thrown away. -/
  | discard
  deriving DecidableEq

/-- What a dialog host does with a request. -/
inductive HostMode
  /-- The dialog stays open until someone closes it. -/
  | hold
  /-- The dialog is closed at once, always in the same way. -/
  | answer (outcome : DialogOutcome)
  deriving DecidableEq

/-- What can be asked of a registry at any time. -/
structure Status where
  /-- The number of mappings. -/
  size : Nat
  /-- The number of mappings for which there is room. -/
  capacity : Nat
  /-- Whether there is no mapping. -/
  isEmpty : Bool
  /-- The dialog action that holds the dialog slot. -/
  dialogOwner : Option Action
  /-- Whether the dialog slot is taken. -/
  isDialogActive : Bool
  /-- Whether something leads to the UI thread. -/
  hasDispatcher : Bool
  /-- The actions of which a blocking run is in flight. -/
  busy : List Action
  /-- The actions of which a run has to be finished. -/
  running : List Action
  deriving DecidableEq

/-- The status of a registry at a time. -/
def Registry.status {H D : Type} (r : Registry H D) (now : Nat) : Status where
  size := r.size
  capacity := r.capacity
  isEmpty := r.isEmpty
  dialogOwner := r.dialogOwner
  isDialogActive := r.isDialogActive
  hasDispatcher := r.hasDispatcher
  busy := r.busyActions
  running := (r.stalled 0 now).map (·.action)

/-- Something that a script, a dialog or a host recorded. -/
inductive Event (T : Type)
  /-- A script started. -/
  | run (action : Action) (flags : Flags) (tag : T) (onMain : Bool)
  /-- The host was asked for a dialog. -/
  | opened (kind : DialogKind) (action : Action)
  /-- A dialog was accepted. -/
  | accepted (path : Option String)
  /-- A script requested an action. -/
  | triggered (action : Action) (outcome : Outcome)
  /-- A script added mappings. -/
  | registered (report : Report)
  /-- A script asked for the state of the registry. -/
  | state (status : Status)
  /-- A script wanted the registry, which is gone. -/
  | noRegistry (step : String)
  /-- A script came to a step that makes no sense. -/
  | malformed (step : T)

/-- How a frontend is set up, once and for all. -/
structure Setup where
  /-- The levels of the notices that are shown. -/
  logged : Level → Bool := fun _ => true
  /-- How many scripts are run; those after them return at once. The limit is one of the scripts and not
  of the library, which calls whatever handlers it is given. -/
  scriptLimit : Nat := 100

/-- The state of a frontend. -/
structure Frontend (T : Type) where
  /-- How the frontend is set up. -/
  setup : Setup := {}
  /-- The time, in milliseconds since the frontend started. -/
  now : Nat := 0
  /-- How many registries there have been. -/
  registries : Nat := 0
  /-- The registry. -/
  registry : Option (Registry (Handler T) Dispatcher) := none
  /-- The watchdog that looks at the registry. -/
  watchdog : Option Watchdog := none
  /-- The emulator. -/
  control : Control := {}
  /-- What the host does with dialogs. -/
  host : HostMode := .hold
  /-- The dialogs that are open, the oldest first. -/
  dialogs : List (DialogRequest (Handler T)) := []
  /-- The queues to the UI thread. -/
  queues : List (UiQueue (Invocation (Handler T))) := []
  /-- The invocations that were put aside, the oldest first. -/
  parked : List (Invocation (Handler T)) := []
  /-- How many scripts have been run. -/
  scriptRuns : Nat := 0
  /-- What was recorded, the latest last. -/
  events : Array (Event T) := #[]
  /-- What was noticed, the latest last, be it shown or not. -/
  notices : Array Notice := #[]

/-- A computation on a frontend. -/
abbrev FrontendM (T : Type) := StateM (Frontend T)

namespace FrontendM

variable {T : Type}

/-- Adds to the record. -/
def record (e : Event T) : FrontendM T Unit := modify fun f => { f with events := f.events.push e }

/-- Adds to the notices. -/
def notify (n : Notice) : FrontendM T Unit := modify fun f => { f with notices := f.notices.push n }

/-- Changes the emulator. -/
def changeControl (change : Control → Control) : FrontendM T Unit :=
  modify fun f => { f with control := change f.control }

/-- Uses the registry, which may change; gives nothing if there is none. -/
def use? {α : Type}
    (use : Registry (Handler T) Dispatcher → α × Registry (Handler T) Dispatcher) :
    FrontendM T (Option α) :=
  modifyGet fun f => match f.registry with
    | none => (none, f)
    | some r => let (x, r) := use r; (some x, { f with registry := some r })

/-- Asks the registry; gives nothing if there is none. -/
def ask? {α : Type} (ask : Registry (Handler T) Dispatcher → α) : FrontendM T (Option α) := do
  return (← get).registry.map ask

end FrontendM

end Switchboard
