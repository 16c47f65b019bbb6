import Switchboard.Proofs.Frontend.Commands
import Switchboard.Proofs.Traffic.Run

/-!
# A frontend at work

Several threads work with one frontend. A client requests an action under the lock of the registry,
and runs the handler or hands the invocation over when it has let go of the lock; the UI thread takes
an invocation out of the queue and then runs its handler; and when the user has left a dialog, its
invocation is finished. In between everyone else goes on. A `Workplace` is a frontend together with
what the threads have in hand, and its moves are the parts of what a frontend does, each of which
takes a lock at most once, in any order and by any number of threads. What a move does is said by the
computations that the frontend itself consists of.
-/

namespace Switchboard

/-- A frontend, and what those who work with it have in hand. -/
structure Workplace (T : Type) where
  /-- The frontend. -/
  frontend : Frontend T
  /-- What was accepted for a dispatcher, and has not been handed over yet. -/
  carried : List (Dispatcher × Invocation (Handler T)) := []
  /-- What was accepted to be run at once, and has not been run yet. -/
  called : List (Invocation (Handler T)) := []
  /-- What was taken out of a queue, and has not been run yet. -/
  taken : List (Invocation (Handler T)) := []
  /-- The dialogs that the user has left, with invocations that have not been finished yet. -/
  closing : List (DialogRequest (Handler T)) := []

/-- One thing that someone does. -/
inductive Workplace.Move
  /-- A client requests an action. -/
  | request (a : Action)
  /-- A client requests the action of a name. -/
  | requestByName (name : String)
  /-- A client hands over what is carried at a place, on the main thread or off it. -/
  | handOver (onMain : Bool) (place : Nat)
  /-- A client runs what is to be run at once, on the main thread or off it. -/
  | call (onMain : Bool) (place : Nat)
  /-- The UI thread takes an invocation out of a queue. -/
  | take (queue : Nat)
  /-- The UI thread runs what it has taken out. -/
  | runTaken (place : Nat)
  /-- The user leaves an open dialog. -/
  | leave (place : Nat) (outcome : DialogOutcome)
  /-- The invocation of a dialog that the user has left is finished. -/
  | finish (place : Nat)
  /-- Some time passes. -/
  | sleep (ms : Nat)

/-- Something that changes the emulator, or may do so. -/
inductive Happening
  /-- The handler of an action was run where the action was requested. -/
  | ran (a : Action)
  /-- The UI thread has run the handler of an action. -/
  | executed (a : Action)
  /-- The user has left a dialog. -/
  | closed (kind : DialogKind) (outcome : DialogOutcome)
  deriving DecidableEq

namespace Workplace

open FrontendM

variable {T : Type}

/-- The frontend does something. -/
def does (w : Workplace T) (m : FrontendM T Unit) : Workplace T :=
  { w with frontend := m.after w.frontend }

/-- An action is requested. What is accepted is in hand then. -/
def request (w : Workplace T) (a : Action) : Workplace T :=
  match w.frontend.registry with
  | none => w
  | some r =>
    match r.judge a w.frontend.now with
    | (.refused why, _) => w.does (notify (why.notice a))
    | (.accepted i none, r) =>
      { w with frontend := { w.frontend with registry := some r }, called := w.called ++ [i] }.does
        (notify (.running a))
    | (.accepted i (some d), r) =>
      { w with frontend := { w.frontend with registry := some r },
               carried := w.carried ++ [(d, i)] }.does (notify (.dispatching a))

/-- The workplace after one move. A move that cannot be made changes nothing. -/
def perform (w : Workplace T) : Move → Workplace T
  | .request a => w.request a
  | .requestByName name =>
    match Action.parse name with
    | .ok a => w.request a
    | .error e => if w.frontend.registry.isNone then w else w.does (notify (.failed e))
  | .handOver onMain place =>
    match w.carried[place]? with
    | none => w
    | some (d, i) =>
      { w with carried := w.carried.eraseIdx place }.does (dispatch (runInvocation onMain) i d)
  | .call onMain place =>
    match w.called[place]? with
    | none => w
    | some i => { w with called := w.called.eraseIdx place }.does (runInvocation onMain i)
  | .take queue =>
    match w.frontend.queues[queue]?.bind (·.receive?) with
    | none => w
    | some (i, q) => { w with frontend := takenOut w.frontend queue i q, taken := w.taken ++ [i] }
  | .runTaken place =>
    match w.taken[place]? with
    | none => w
    | some i => { w with taken := w.taken.eraseIdx place }.does (runInvocation true i)
  | .leave place outcome =>
    match w.frontend.dialogs[place]? with
    | none => w
    | some request =>
      { w with frontend := { w.frontend with dialogs := w.frontend.dialogs.eraseIdx place },
               closing := w.closing ++ [request] }.does (leave request outcome)
  | .finish place =>
    match w.closing[place]? with
    | none => w
    | some request =>
      { w with closing := w.closing.eraseIdx place }.does (finish request.invocation)
  | .sleep ms => w.does (FrontendM.sleep ms)

/-- The workplace after the moves of a list. -/
def run (w : Workplace T) (moves : List Move) : Workplace T := moves.foldl perform w

/-- Without moves the workplace stays as it is. -/
@[simp] theorem run_nil (w : Workplace T) : w.run [] = w := rfl

/-- The first move is made first. -/
@[simp] theorem run_cons (w : Workplace T) (m : Move) (moves : List Move) :
    w.run (m :: moves) = (w.perform m).run moves := rfl

/-- A run can be cut anywhere. -/
theorem run_append (w : Workplace T) (before after : List Move) :
    w.run (before ++ after) = (w.run before).run after :=
  List.foldl_append

/-- What happens with a move. -/
def happening? (w : Workplace T) : Move → Option Happening
  | .call _ place => w.called[place]?.map fun i => .ran i.action
  | .runTaken place => w.taken[place]?.map fun i => .executed i.action
  | .leave place outcome => w.frontend.dialogs[place]?.map fun request => .closed request.kind outcome
  | _ => none

/-- What happens in a run, in order. -/
def history (w : Workplace T) : List Move → List Happening
  | [] => []
  | m :: moves => (w.happening? m).toList ++ (w.perform m).history moves

/-- What happens in a run happens in the one part and then in the other. -/
theorem history_append (w : Workplace T) (before after : List Move) :
    w.history (before ++ after) = w.history before ++ (w.run before).history after := by
  induction before generalizing w with
  | nil => rfl
  | cons m before ih =>
    show (w.happening? m).toList ++ (w.perform m).history (before ++ after) = _
    rw [ih, ← List.append_assoc]
    rfl

/-! ## Requests -/

section

variable {w : Workplace T} {r : Registry (Handler T) Dispatcher} {a : Action}

/-- A request that is refused is only taken notice of. -/
theorem request_of_refused (hr : w.frontend.registry = some r) {why : Refusal}
    (hv : (r.judge a w.frontend.now).1 = .refused why) :
    w.request a = w.does (notify (why.notice a)) := by
  have hj : r.judge a w.frontend.now =
      (.refused why, (r.judge a w.frontend.now).2) := by rw [← hv]
  rw [request, hr]
  dsimp only
  rw [hj]

/-- With a request that is accepted the registry begins the run. If its handler is to be run at once
the client has it in hand. -/
theorem request_of_called (hr : w.frontend.registry = some r) {i : Invocation (Handler T)}
    (hv : (r.judge a w.frontend.now).1 = .accepted i none) :
    w.request a = { w with
      frontend := { w.frontend with registry := some (r.perform (.trigger a w.frontend.now)) }
      called := w.called ++ [i] }.does (notify (.running a)) := by
  have hj : r.judge a w.frontend.now =
      (.accepted i none, r.perform (.trigger a w.frontend.now)) := by
    rw [← hv]
    rfl
  simp only [request, hr, hj]

/-- If it is for a dispatcher the client carries it. -/
theorem request_of_carried (hr : w.frontend.registry = some r) {i : Invocation (Handler T)}
    {d : Dispatcher} (hv : (r.judge a w.frontend.now).1 = .accepted i (some d)) :
    w.request a = { w with
      frontend := { w.frontend with registry := some (r.perform (.trigger a w.frontend.now)) }
      carried := w.carried ++ [(d, i)] }.does (notify (.dispatching a)) := by
  have hj : r.judge a w.frontend.now =
      (.accepted i (some d), r.perform (.trigger a w.frontend.now)) := by
    rw [← hv]
    rfl
  simp only [request, hr, hj]

end

end Workplace

end Switchboard
