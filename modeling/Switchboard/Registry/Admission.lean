import Switchboard.Registry.Basic

/-!
# Admission and release

A request for an action is judged in one step, `Registry.judge`: it is refused without any change,
or it is accepted, and then the registry notes at once all that the run holds. The run gives it
back in one step, `Registry.release`, by the action's identifier or by the invocation; the latter
counts only in the epoch in which the invocation was issued.
-/

namespace Switchboard

/-- Why a request is refused. -/
inductive Refusal
  /-- The action has no mapping. -/
  | unknown
  /-- The action is blocking and in flight. -/
  | busy
  /-- The action opens a dialog, and the slot is taken. -/
  | dialogOpen (owner : Action)
  /-- The action has to run on the UI thread, and nothing leads there. -/
  | noDispatcher
  deriving DecidableEq

/-- The judgement of a request. -/
inductive Admission (H D : Type)
  /-- The request is dropped. -/
  | refused (why : Refusal)
  /-- The handler is to be run: by the dispatcher if there is one here, at once if not. -/
  | accepted (invocation : Invocation H) (route : Option D)

/-- What the caller of a request is told. -/
inductive Outcome
  /-- The handler ran where the request was made. -/
  | ran
  /-- The dispatcher has the invocation; whether the handler runs is its matter. -/
  | dispatched
  /-- A blocking run was in flight. -/
  | droppedBusy
  /-- A dialog was open. -/
  | droppedDialog
  /-- The action has no mapping. -/
  | unknown
  /-- Nothing leads to the UI thread. -/
  | noDispatcher
  deriving DecidableEq

namespace Outcome

/-- Every outcome. -/
def all : List Outcome := [.ran, .dispatched, .droppedBusy, .droppedDialog, .unknown, .noDispatcher]

/-- The name of the outcome. -/
def label : Outcome → String
  | .ran => "Ran"
  | .dispatched => "Dispatched"
  | .droppedBusy => "DroppedBusy"
  | .droppedDialog => "DroppedDialog"
  | .unknown => "Unknown"
  | .noDispatcher => "NoDispatcher"

/-- The handler ran or was handed over to run. -/
def isAccepted (o : Outcome) : Bool := o == .ran || o == .dispatched

/-- The request was dropped because something is in flight. -/
def isDropped (o : Outcome) : Bool := o == .droppedBusy || o == .droppedDialog

end Outcome

/-- What the caller is told of a refusal. -/
def Refusal.outcome : Refusal → Outcome
  | .unknown => .unknown
  | .busy => .droppedBusy
  | .dialogOpen _ => .droppedDialog
  | .noDispatcher => .noDispatcher

/-- What the caller is told of a judgement. -/
def Admission.outcome {H D : Type} : Admission H D → Outcome
  | .refused why => why.outcome
  | .accepted _ none => .ran
  | .accepted _ (some _) => .dispatched

/-- What became of a release. -/
inductive Release
  /-- The invocation is of an earlier epoch; nothing changed. -/
  | stale
  /-- The action has no mapping; nothing changed. -/
  | unknown
  /-- The action was running and is no longer. -/
  | finished
  /-- The action was not running. -/
  | idle
  deriving DecidableEq

namespace Registry

variable {H D : Type}

/-- Why a request for the action of an entry is refused, if it is. A busy action comes before a
taken slot, and a taken slot before a missing dispatcher. -/
def refusal? (r : Registry H D) (e : Entry H) : Option Refusal :=
  if e.flags.blocks && e.busy then some .busy
  else if e.flags.dialog && r.dialogOwner.isSome then r.dialogOwner.map .dialogOpen
  else if e.flags.needsUiThread && r.dispatcher.isNone then some .noDispatcher
  else none

/-- The registry with a run of an entry's action begun: the entry notes it, and a dialog action
takes the dialog slot. -/
def begin (r : Registry H D) (e : Entry H) (now : Nat) : Registry H D :=
  { r.updateEntry e.action (·.start now) with
    dialogOwner := if e.flags.dialog then some e.action else r.dialogOwner }

/-- The invocation of an entry's action that the registry issues now. -/
def issue (r : Registry H D) (e : Entry H) : Invocation H :=
  { registry := r.id, action := e.action, flags := e.flags, handler := e.handler, epoch := r.epoch }

/-- Judges a request for an action, and notes the run if the request is accepted. -/
def judge (r : Registry H D) (a : Action) (now : Nat) : Admission H D × Registry H D :=
  match r.lookup? a with
  | none => (.refused .unknown, r)
  | some e =>
    match r.refusal? e with
    | some why => (.refused why, r)
    | none =>
      (.accepted (r.issue e) (if e.flags.needsUiThread then r.dispatcher else none), r.begin e now)

/-- Ends the run of an action: the entry is no longer busy, and the dialog slot is given back if
the action holds it. With an epoch given, nothing happens in any other. -/
def release (r : Registry H D) (a : Action) (epoch : Option Nat) : Release × Registry H D :=
  if epoch.any (· != r.epoch) then (.stale, r)
  else match r.lookup? a with
    | none => (.unknown, r)
    | some e =>
      -- A dialog that another action holds open stays open.
      let ownsSlot := e.flags.dialog && r.dialogOwner == some a
      (if e.busy || ownsSlot then .finished else .idle,
        { r.updateEntry a (·.stop) with
          dialogOwner := if ownsSlot then none else r.dialogOwner })

/-- Ends the run of an action, whoever began it. -/
def finish (r : Registry H D) (a : Action) : Release × Registry H D := r.release a none

/-- Ends the run that an invocation stands for, if the epoch is still the invocation's. -/
def finishInvocation (r : Registry H D) (i : Invocation H) : Release × Registry H D :=
  r.release i.action (some i.epoch)

/-- A refused request changes nothing. -/
theorem judge_refused {r r' : Registry H D} {a : Action} {now : Nat} {why : Refusal}
    (h : r.judge a now = (.refused why, r')) : r' = r := by
  unfold judge at h
  split at h
  · exact (Prod.mk.inj h).2.symm
  · split at h
    · exact (Prod.mk.inj h).2.symm
    · simp at h

end Registry

end Switchboard
