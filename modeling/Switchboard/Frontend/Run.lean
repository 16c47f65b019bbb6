import Switchboard.Frontend.State

/-!
# Running handlers

A request that is accepted is run at once or handed to the dispatcher, a handler may request
further actions, and a dialog that is closed at once finishes its action from within the handler.
All of this nests. A frontend runs only as many scripts as it is set up to; every script after those
records that it started and does nothing more. Since only scripts request actions, that bounds the
nesting and the length of every drain of a queue: `runInvocation` recurses on a depth and `drain` on
a number of rounds, both of which are above what any run can use up.
-/

namespace Switchboard

/-- What is noticed when an action or an invocation is finished. -/
def Release.notice (a : Action) : Release → Notice
  | .stale => .staleFinish a
  | .unknown => .unknownFinish a
  | .finished => .finished a
  | .idle => .idleFinish a

/-- What is noticed when a request is refused. -/
def Refusal.notice (a : Action) : Refusal → Notice
  | .unknown => .failed (.unknownAction a)
  | .busy => .busy a
  | .dialogOpen owner => .dialogActive owner a
  | .noDispatcher => .failed (.noDispatcher a)

/-- What is noticed when a mapping is offered, which a filter for a machine may hold back. -/
def Enrolment.notice? (machine : Option Machine) (a : Action) : Enrolment → Option Notice
  | .added grownTo => grownTo.map .grown
  | .reserved => some .reservedOffered
  | .duplicate => some (.failed (.alreadyRegistered a))
  | .withheld => machine.map (.unavailable a)

namespace FrontendM

variable {T : Type}

/-- Finishes an action by its identifier. -/
def finishAction (a : Action) : FrontendM T Unit := do
  if let some released ← use? (·.finish a) then notify (released.notice a)

/-- Finishes an invocation, whose registry may be gone. -/
def finish (i : Invocation (Handler T)) : FrontendM T Unit := do
  match (← get).registry with
  | some r =>
    if r.id = i.registry then
      let (released, r) := r.finishInvocation i
      modify fun f => { f with registry := some r }
      notify (released.notice i.action)
    else notify (.orphanFinish i.action)
  | none => notify (.orphanFinish i.action)

/-- Whether the registry that issued an invocation is still there. -/
def isAlive (i : Invocation (Handler T)) : FrontendM T Bool := do
  return (← get).registry.any (·.id == i.registry)

/-- Offers mappings, those that a machine does not support held back if one is given. -/
def registerFor (machine : Option Machine) (ms : List (Mapping (Handler T))) :
    FrontendM T Report := do
  let keep a := machine.all fun m => Action.isSupportedBy a m
  let es ← use? (·.enrolWhere keep ms)
  let es := es.getD []
  let report := Report.ofEnrolments es
  for (a, e) in es do
    if let some n := e.notice? machine a then notify n
  if let some total ← ask? (·.size) then
    notify (.registered report.added report.rejected.length total)
  return report

/-- Offers mappings. -/
def register (ms : List (Mapping (Handler T))) : FrontendM T Report := registerFor none ms

/-- The mappings of a subsystem, with their commands as handlers. -/
def domainMappings (d : Domain) : List (Mapping (Handler T)) :=
  d.mappings.map fun m => { action := m.action, handler := .command m.handler, flags := m.flags }

/-- Offers the mappings of all subsystems, keeping those that a machine supports. -/
def registerAll (machine : Machine) : FrontendM T Report := do
  let mut report : Report := {}
  for d in Domain.all do
    report := report ++ (← registerFor (some machine) (domainMappings d))
  return report

/-- Empties the table of the registry. -/
def shutdown : FrontendM T Unit := do
  if let some released ← use? (fun r => (r.size, r.shutdown)) then
    notify (.shutDown released)

/-- Starts over with an empty table. -/
def restart : FrontendM T Unit := do
  if let some populated ← ask? (!·.isEmpty) then
    if populated then notify .reinitializing
    shutdown

/-- Carries out what accepting a dialog does. -/
def accept (path : Option String) : OnAccept → FrontendM T Unit
  | .nothing => pure ()
  | .record => record (.accepted path)
  | .attachDisk unit => match path with
    | some image => do
      notify (.attaching image unit)
      changeControl (·.attachDisk unit image)
    | none => notify (.attachWithoutFile unit)
  | .loadHotkeys => match path with
    | some file => do
      notify (.loadingHotkeys file)
      changeControl (·.setHotkeys (.file file))
    | none => notify .noHotkeyFile
  | .saveHotkeys => match path with
    | some file => do
      notify (.savingHotkeys file)
      changeControl (·.noteHotkeysSaved file)
    | none => notify .noHotkeyFile
  | .quit => do
    notify .quitConfirmed
    changeControl (·.requestQuit)

/-- Closes a dialog, which finishes the invocation that asked for it. -/
def close (request : DialogRequest (Handler T)) (outcome : DialogOutcome) : FrontendM T Unit := do
  notify (.dialogClosed request.kind outcome)
  if let .accepted path := outcome then accept path request.onAccept
  finish request.invocation

/-- Asks the host for a dialog. -/
def openDialog (request : DialogRequest (Handler T)) : FrontendM T Unit := do
  record (.opened request.kind request.invocation.action)
  match (← get).host with
  | .hold => modify fun f => { f with dialogs := f.dialogs ++ [request] }
  | .answer outcome => close request outcome

/-- Changes the emulator in the course of wording a notice for the user, which is not done at all if
such notices are not shown. -/
def changeNoticing (change : Control → Control) (told : Control → Notice) : FrontendM T Unit := do
  if (← get).setup.logged .info then
    changeControl change
    notify (told (← get).control)

/-- Carries out a command of the frontend's own for an invocation. -/
def perform (i : Invocation (Handler T)) : Command → FrontendM T Unit
  | .toggleWarp => changeNoticing (·.toggleWarp) fun c => .warp c.warp
  | .togglePause => changeNoticing (·.togglePause) fun c => .emulation c.paused
  | .advanceFrame => changeControl fun c => if c.paused then c.advanceFrame else c.setPaused true
  | .detachAll => do
    notify .detachingAll
    changeControl (·.detachAll)
  | .resetDrive unit => do
    notify (.resettingDrive unit)
    changeControl (·.resetDrive unit)
    finish i
  | .reset kind => do
    notify (.resetting kind)
    changeControl (·.reset kind)
    finish i
  | .setHotkeys source => changeControl (·.setHotkeys source)
  | .openDialog kind onAccept => openDialog { kind, invocation := i, onAccept }

/-- Puts an invocation aside. -/
def park (i : Invocation (Handler T)) : FrontendM T Unit :=
  modify fun f => { f with parked := f.parked ++ [i] }

/-- Sends an invocation to a queue; one that no one will take out is finished instead. -/
def send (queue : Nat) (i : Invocation (Handler T)) : FrontendM T Unit := do
  match (← get).queues[queue]?.bind (·.send? i) with
  | some q => modify fun f => { f with queues := f.queues.set queue q }
  | none =>
    notify (.queueClosed i.action)
    finish i

/-- Hands an invocation to a dispatcher, given how handlers are run. -/
def dispatch (run : Invocation (Handler T) → FrontendM T Unit) (i : Invocation (Handler T)) :
    Dispatcher → FrontendM T Unit
  | .queue number => send number i
  | .park => park i
  | .runNow => run i
  | .release => finish i
  | .discard => pure ()

/-- Requests an action, given how handlers are run; gives nothing if there is no registry. -/
def triggerWith (run : Invocation (Handler T) → FrontendM T Unit) (a : Action) :
    FrontendM T (Option Outcome) := do
  let now := (← get).now
  match ← use? (·.judge a now) with
  | none => return none
  | some (.refused why) =>
    notify (why.notice a)
    return why.outcome
  | some (.accepted i none) =>
    notify (.running a)
    run i
    return some .ran
  | some (.accepted i (some d)) =>
    notify (.dispatching a)
    dispatch run i d
    return some .dispatched

/-- What a script does with the registry, given how handlers are run. -/
def stepOnRegistry (run : Invocation (Handler T) → FrontendM T Unit) :
    RegistryStep T → FrontendM T Unit
  | .trigger a => do
    if let some outcome ← triggerWith run a then record (.triggered a outcome)
  | .finish a => finishAction a
  | .register ms => do record (.registered (← register ms))
  | .restart => restart
  | .shutdown => shutdown
  | .state => do
    let now := (← get).now
    if let some status ← ask? (·.status now) then record (.state status)
  | .malformed text => record (.malformed text)

/-- One step of a script for an invocation, given how handlers are run. -/
def step (run : Invocation (Handler T) → FrontendM T Unit) (i : Invocation (Handler T)) :
    ScriptStep T → FrontendM T Unit
  | .finish => finish i
  | .park => park i
  | .openDialog kind recorded =>
    openDialog { kind, invocation := i, onAccept := if recorded then .record else .nothing }
  | .onRegistry name use => do
    if ← isAlive i then stepOnRegistry run use else record (.noRegistry name)
  | .malformed text => record (.malformed text)

/-- Runs the handler of an invocation, on the main thread or off it, with handlers nested at most
as deep as given. -/
def runNested : Nat → Bool → Invocation (Handler T) → FrontendM T Unit
  | 0, _, _ => pure ()
  | depth + 1, onMain, i =>
    match i.handler with
    | .command c => perform i c
    | .script tag steps => do
      record (.run i.action i.flags tag onMain)
      -- The run is counted even if its script is not gone through.
      let f ← get
      set { f with scriptRuns := f.scriptRuns + 1 }
      if f.scriptRuns < f.setup.scriptLimit then steps.forM (step (runNested depth onMain) i)

/-- Runs the handler of an invocation, on the main thread or off it. -/
def runInvocation (onMain : Bool) (i : Invocation (Handler T)) : FrontendM T Unit := do
  runNested ((← get).setup.scriptLimit + 1) onMain i

/-- Requests an action; gives nothing if there is no registry. -/
def trigger? (onMain : Bool) (a : Action) : FrontendM T (Option Outcome) :=
  triggerWith (runInvocation onMain) a

/-- Runs the invocations at the head of a queue, as many as given. -/
def runHead (queue : Nat) : Nat → FrontendM T Unit
  | 0 => pure ()
  | n + 1 => do
    if let some (i, q) := (← get).queues[queue]?.bind (·.receive?) then
      modify fun f => { f with queues := f.queues.set queue q }
      notify (.uiRunning i.action)
      runInvocation true i
    runHead queue n

/-- Runs what waits in a queue, round after round, until nothing does, and counts what was run. -/
def drainRounds (queue : Nat) : Nat → FrontendM T Nat
  | 0 => pure 0
  | rounds + 1 => do
    -- What the handlers of this round send to the queue is left to the next round.
    let n := ((← get).queues[queue]?.map (·.pending)).getD 0
    if n = 0 then return 0
    runHead queue n
    return n + (← drainRounds queue rounds)

/-- Runs what waits in a queue until nothing does, and counts what was run. A round leaves
something waiting only if a script ran in it, so there are never more rounds than these. -/
def drain (queue : Nat) : FrontendM T Nat := do
  drainRounds queue ((← get).setup.scriptLimit + 2)

end FrontendM

end Switchboard
