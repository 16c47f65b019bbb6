import Switchboard.Registry.Basic

/-!
# The stall watchdog

An action that is never finished stays busy for ever, and a dialog action among them keeps every
other dialog from opening. The watchdog releases nothing; it looks at the registry from time to
time and tells, once for each spell, which runs have gone on for too long. It remembers one flag
for each action: whether the action's current spell has been told.
-/

namespace Switchboard

/-- A watchdog, between two checks. -/
structure Watchdog where
  /-- How many milliseconds a run may go on; zero switches the watchdog off. -/
  threshold : Nat
  /-- The actions whose stall has been told and not yet ended. -/
  reported : Action.Table Bool := .replicate false

/-- What a check found. -/
structure WatchdogReport where
  /-- The actions whose stall is over, in order of raw numbers. -/
  ended : List Action := []
  /-- The runs that stalled since the last check, in the order of the registry. -/
  fresh : List StalledRun := []

namespace Watchdog

/-- Whether the watchdog looks at all. -/
def isEnabled (w : Watchdog) : Bool := w.threshold != 0

/-- The actions of some runs, marked. -/
def mark (flags : Action.Table Bool) (runs : List StalledRun) : Action.Table Bool :=
  runs.foldl (fun t run => t.set run.action true) flags

/-- The actions that are flagged as reported and not among those given, in order of raw numbers. -/
def cleared (reported still : Action.Table Bool) : List Action :=
  Action.all.filter fun a => reported.get a && !still.get a

/-- Looks at the runs that are stalled now: the flags of those no longer stalled are cleared, and
those not yet flagged are told and flagged. -/
def observe (w : Watchdog) (stalled : List StalledRun) : WatchdogReport × Watchdog :=
  let ended := cleared w.reported (mark (.replicate false) stalled)
  -- An action that stalls again after a spell has ended is told again.
  let kept := ended.foldl (fun t a => t.set a false) w.reported
  let fresh := stalled.filter fun run => !kept.get run.action
  (⟨ended, fresh⟩, { w with reported := mark kept fresh })

/-- Looks at a registry at a time. -/
def check {H D : Type} (w : Watchdog) (r : Registry H D) (now : Nat) :
    WatchdogReport × Watchdog :=
  if w.isEnabled then w.observe (r.stalled w.threshold now) else ({}, w)

end Watchdog

end Switchboard
