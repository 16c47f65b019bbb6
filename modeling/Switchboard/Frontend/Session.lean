import Switchboard.Frontend.Run

/-!
# Using a frontend

What the parts of a frontend outside the registry do: the UI thread empties its queues, dialogs are
closed, invocations that were put aside are run or finished, registries come and go, and the
watchdog looks around. A request about something that is not there gives nothing and has no effect.
-/

namespace Switchboard

namespace Frontend

variable {T : Type}

/-- A frontend with a registry that has room for some mappings. -/
def start (capacity : Nat) (setup : Setup := {}) : Frontend T :=
  { setup, registries := 1, registry := some (.new 0 capacity) }

/-- A queue whose receiving end is there. -/
def openQueue? (f : Frontend T) (queue : Nat) : Option (UiQueue (Invocation (Handler T))) :=
  f.queues[queue]?.filter (·.receiving)

/-- Whether the dispatcher of the registry is a sender of a queue. -/
def feeds (f : Frontend T) (queue : Nat) : Bool :=
  f.registry.any (·.dispatcher == some (.queue queue))

/-- Whether a sender of a queue is left, be it that of the queue's maker or the dispatcher. -/
def isConnected (f : Frontend T) (queue : Nat) : Bool :=
  f.queues[queue]?.any (·.senderHeld) || f.feeds queue

end Frontend

/-- What running a queue until its last sender is gone comes to. -/
inductive BlockingRun
  /-- A sender is left, so the run would not come back. -/
  | wouldBlock
  /-- Everything that waited was run. -/
  | ran (count : Nat)
  deriving DecidableEq

namespace FrontendM

variable {T : Type}

/-- A new registry in place of the one that is there; the watchdog goes with the latter. -/
def renew (capacity : Nat) : FrontendM T Unit := do
  modify fun f => { f with
    registries := f.registries + 1
    registry := some (.new f.registries capacity)
    watchdog := none }
  notify (.created (max capacity 1))

/-- No registry, and no watchdog, in place of those that are there. -/
def dropRegistry : FrontendM T Unit := modify fun f => { f with registry := none, watchdog := none }

/-- Requests the action with a given name; gives nothing if there is no registry. -/
def triggerByName? (onMain : Bool) (name : String) : FrontendM T (Option Outcome) := do
  match Action.parse name with
  | .ok a => trigger? onMain a
  | .error e =>
    if (← get).registry.isNone then return none
    notify (.failed e)
    return some .unknown

/-- Requests an action several times off the main thread; gives nothing if there is no registry. -/
def race? (a : Action) : Nat → FrontendM T (Option (List Outcome))
  | 0 => return (← get).registry.map fun _ => []
  | n + 1 => do
    let some outcome ← trigger? false a | return none
    let some outcomes ← race? a n | return none
    return some (outcome :: outcomes)

/-- Makes a dispatcher lead to the UI thread. -/
def setDispatcher (d : Dispatcher) : FrontendM T Unit := do
  if let some replaced ← use? fun r => (r.hasDispatcher, r.setDispatcher d) then
    notify (if replaced then .dispatcherReplaced else .dispatcherInstalled)

/-- Makes the sender of a queue's maker, if it is held still, lead to the UI thread. -/
def setQueueDispatcher? (queue : Nat) : FrontendM T (Option Unit) := do
  if (← get).queues[queue]?.any (·.senderHeld) then
    setDispatcher (.queue queue)
    return some ()
  else return none

/-- Notices every mapping. -/
def dump : FrontendM T Unit := do
  if let some r := (← get).registry then
    notify (.summary r.size r.dialogOwner)
    for e in r.entries do notify (.listed e.action e.flags e.busy)

/-- Adds a queue, and gives its number. -/
def newQueue : FrontendM T Nat :=
  modifyGet fun f => (f.queues.length, { f with queues := f.queues ++ [{}] })

/-- Changes a queue, and gives what it was before. -/
def changeQueue? (queue : Nat)
    (change : UiQueue (Invocation (Handler T)) → UiQueue (Invocation (Handler T))) :
    FrontendM T (Option (UiQueue (Invocation (Handler T)))) :=
  modifyGet fun f => (f.queues[queue]?, { f with queues := f.queues.modify queue change })

/-- Drops the receiving end of a queue, and tells whether it was there. -/
def dropQueue? (queue : Nat) : FrontendM T (Option Bool) := do
  return (← changeQueue? queue (·.dropReceiver)).map (·.receiving)

/-- Drops the sender of a queue's maker, and tells whether it was held. -/
def dropSender? (queue : Nat) : FrontendM T (Option Bool) := do
  return (← changeQueue? queue (·.dropSender)).map (·.senderHeld)

/-- The number of invocations that wait in a queue. -/
def pending? (queue : Nat) : FrontendM T (Option Nat) := do
  return ((← get).openQueue? queue).map (·.pending)

/-- Runs what waits in a queue, and counts it. -/
def runPending? (queue : Nat) : FrontendM T (Option Nat) := do
  if ((← get).openQueue? queue).isSome then return some (← drain queue) else return none

/-- Runs what waits in a queue, and counts it; gives no count if nothing waits and no sender is
left to change that. -/
def runTimeout? (queue : Nat) : FrontendM T (Option (Option Nat)) := do
  let f ← get
  match f.openQueue? queue with
  | none => return none
  | some q =>
    if q.waiting.isEmpty && !f.isConnected queue then return some none
    return some (some (← drain queue))

/-- Runs what comes into a queue until its last sender is gone. -/
def runBlocking? (queue : Nat) : FrontendM T (Option BlockingRun) := do
  let f ← get
  if (f.openQueue? queue).isNone then return none
  if f.isConnected queue then return some .wouldBlock
  return some (.ran (← drain queue))

/-- Something about an invocation that was put aside. -/
def withParked? {α : Type} (place : Nat) (use : Invocation (Handler T) → FrontendM T α) :
    FrontendM T (Option α) := do
  match (← get).parked[place]? with
  | some i => return some (← use i)
  | none => return none

/-- Sends an invocation that was put aside to a queue, through the sender of the queue's maker. -/
def sendParked? (queue place : Nat) : FrontendM T (Option Unit) := do
  if (← get).queues[queue]?.any (·.senderHeld) then withParked? place (send queue) else return none

/-- Forgets the invocations that were put aside, and counts them. -/
def clearParked : FrontendM T Nat := modifyGet fun f => (f.parked.length, { f with parked := [] })

/-- Finishes the invocation that asked for an open dialog; the dialog stays open. -/
def finishDialog? (place : Nat) : FrontendM T (Option Unit) := do
  match (← get).dialogs[place]? with
  | some request => return some (← finish request.invocation)
  | none => return none

/-- Closes an open dialog, and tells which it was. -/
def closeDialog? (place : Nat) (outcome : DialogOutcome) : FrontendM T (Option DialogKind) := do
  match (← get).dialogs[place]? with
  | some request =>
    modify fun f => { f with dialogs := f.dialogs.eraseIdx place }
    close request outcome
    return some request.kind
  | none => return none

/-- Lets some milliseconds pass. -/
def sleep (ms : Nat) : FrontendM T Unit := modify fun f => { f with now := f.now + ms }

/-- Sets a watchdog on the registry, in place of the one that is there. -/
def setWatchdog (threshold : Nat) : FrontendM T Unit :=
  modify fun f => { f with watchdog := some { threshold } }

/-- Lets the watchdog look at the registry, and tells whether it does look and what is new. -/
def checkStalls? : FrontendM T (Option (Bool × List StalledRun)) := do
  let f ← get
  match f.watchdog, f.registry with
  | some w, some r =>
    let (report, w) := w.check r f.now
    modify fun f => { f with watchdog := some w }
    for a in report.ended do notify (.stallEnded a)
    for run in report.fresh do
      notify (.stalled run.action run.runningFor)
      if r.dialogOwner = some run.action then notify (.dialogsBlocked run.action)
    return some (w.isEnabled, report.fresh)
  | _, _ => return none

/-- Takes the watchdog away, and tells whether there was one. -/
def dropWatchdog : FrontendM T Bool :=
  modifyGet fun f => (f.watchdog.isSome, { f with watchdog := none })

/-- Takes what was recorded and noticed, and leaves both records empty. -/
def takeRecords : FrontendM T (Array (Event T) × Array Notice) :=
  modifyGet fun f => ((f.events, f.notices), { f with events := #[], notices := #[] })

end FrontendM

end Switchboard
