import Switchboard.Action.Table
import Switchboard.Mapping

/-!
# The table of a registry

A registry keeps its mappings in the order in which they were added, and for each action the place
of its mapping. Beside the mappings it knows which dialog action holds the dialog slot, which
dispatcher leads to the UI thread, and its epoch, the number of times it has been emptied.

Time is a number of milliseconds on a clock that the registry is shown, never one that it reads.
What a handler is (`H`) and what a dispatcher is (`D`) is left open: the registry stores both and
runs neither.
-/

namespace Switchboard

/-- A mapping in the table, with the state of its runs. -/
structure Entry (H : Type) where
  /-- The action that is bound. -/
  action : Action
  /-- What carries the action out. -/
  handler : H
  /-- How the handler runs. -/
  flags : Flags
  /-- A blocking run is in flight. -/
  busy : Bool := false
  /-- When the run that has to be finished was accepted. -/
  runningSince : Option Nat := none

namespace Entry

variable {H : Type}

/-- The entry of a mapping that has just been added. -/
def ofMapping (m : Mapping H) : Entry H := { action := m.action, handler := m.handler, flags := m.flags }

/-- The entry with a run accepted at a time. Only a blocking entry becomes busy, and only an entry
whose runs have to be finished notes the time. -/
def start (e : Entry H) (now : Nat) : Entry H :=
  { e with
    busy := e.busy || e.flags.blocks
    runningSince := if e.flags.needsFinish then some now else e.runningSince }

/-- The entry with no run in flight. -/
def stop (e : Entry H) : Entry H := { e with busy := false, runningSince := none }

end Entry

/-- The state of a registry. -/
structure Registry (H D : Type) where
  /-- The number that tells this registry from others, by which its invocations know it. -/
  id : Nat
  /-- How many mappings there is room for in an empty table. -/
  initialCapacity : Nat
  /-- How many mappings there is room for. -/
  capacity : Nat := initialCapacity
  /-- The mappings, in the order in which they were added. -/
  entries : List (Entry H) := []
  /-- The place of each action's mapping in `entries`. -/
  index : Action.Table (Option Nat) := .replicate none
  /-- What leads to the UI thread. -/
  dispatcher : Option D := none
  /-- The dialog action that holds the dialog slot. -/
  dialogOwner : Option Action := none
  /-- How many times the table has been emptied. -/
  epoch : Nat := 0

/-- One accepted request, as its handler gets it. -/
structure Invocation (H : Type) where
  /-- The registry that accepted the request. -/
  registry : Nat
  /-- The action that was asked for. -/
  action : Action
  /-- The flags of the action's mapping. -/
  flags : Flags
  /-- The handler of the action's mapping. -/
  handler : H
  /-- The epoch of the registry when it accepted the request. -/
  epoch : Nat

namespace Invocation

variable {H : Type}

/-- A one-line description. -/
def inspect (i : Invocation H) : String :=
  s!"Invocation \x7b action: {i.action.label}, flags: {i.flags.inspect}, epoch: {i.epoch}, .. \x7d"

end Invocation

/-- A run that has not been finished for some time. -/
structure StalledRun where
  /-- The action that is running. -/
  action : Action
  /-- For how many milliseconds. -/
  runningFor : Nat
  deriving DecidableEq

namespace Registry

variable {H D : Type}

/-- A new registry; there is room for one mapping at least. -/
def new (id capacity : Nat) : Registry H D := { id, initialCapacity := max capacity 1 }

/-- The entry of an action. -/
def lookup? (r : Registry H D) (a : Action) : Option (Entry H) :=
  (r.index.get a).bind fun i => r.entries[i]?

/-- The registry with the entry of one action changed. -/
def updateEntry (r : Registry H D) (a : Action) (f : Entry H → Entry H) : Registry H D :=
  match r.index.get a with
  | none => r
  | some i => { r with entries := r.entries.modify i f }

/-- Whether the action has a mapping. -/
def isRegistered (r : Registry H D) (a : Action) : Bool := (r.index.get a).isSome

/-- Whether a blocking run of the action is in flight. -/
def isBusy (r : Registry H D) (a : Action) : Bool := (r.lookup? a).any (·.busy)

/-- The flags of the action's mapping. -/
def flags? (r : Registry H D) (a : Action) : Option Flags := (r.lookup? a).map (·.flags)

/-- Whether a dialog action holds the dialog slot. -/
def isDialogActive (r : Registry H D) : Bool := r.dialogOwner.isSome

/-- Whether something leads to the UI thread. -/
def hasDispatcher (r : Registry H D) : Bool := r.dispatcher.isSome

/-- The number of mappings. -/
def size (r : Registry H D) : Nat := r.entries.length

/-- Whether there is no mapping. -/
def isEmpty (r : Registry H D) : Bool := r.size == 0

/-- The actions that have a mapping, in the order in which they were added. -/
def registered (r : Registry H D) : List Action := r.entries.map (·.action)

/-- The actions of which a blocking run is in flight, in the order in which they were added. -/
def busyActions (r : Registry H D) : List Action := r.registered.filter r.isBusy

/-- The runs that have to be finished and are at least `threshold` old, in the order in which their
mappings were added. -/
def stalled (r : Registry H D) (threshold now : Nat) : List StalledRun :=
  r.entries.filterMap fun e => e.runningSince.bind fun since =>
    if threshold ≤ now - since then some ⟨e.action, now - since⟩ else none

/-- The registry with a dispatcher in place of the one it has. -/
def setDispatcher (r : Registry H D) (d : D) : Registry H D := { r with dispatcher := some d }

/-- The registry without mappings, dispatcher and dialog, and with its first capacity. The new
epoch tells invocations of the old table from those of the new. -/
def shutdown (r : Registry H D) : Registry H D :=
  { id := r.id, initialCapacity := r.initialCapacity, epoch := r.epoch + 1 }

/-- A one-line description. -/
def inspect (r : Registry H D) : String :=
  let owner := match r.dialogOwner with
    | some a => s!"Some({a.label})"
    | none => "None"
  s!"ActionRegistry \x7b mappings: {r.size}, dialog_owner: {owner}, has_dispatcher: {r.hasDispatcher} \x7d"

end Registry

end Switchboard
