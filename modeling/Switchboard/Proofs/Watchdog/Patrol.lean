import Switchboard.Proofs.Registry.Stamps
import Switchboard.Proofs.Watchdog.Memory

/-!
# A registry under a watchdog

Clients use a registry while time passes, and from time to time a watchdog looks at it. A run is a
list of events in the order in which they happen; each request and each check is made at the time
that the clock shows then, and the clock never goes back.

`Episode` is a run of an action from the request that is accepted up to the end of the events, if no
event ended it. The stamps of the registry are those of the episodes (`runningSince?_iff`). What a
check sees stalled is its `sample`, and after it the flags of the watchdog are that sample
(`remembers_perform_check`).
-/

namespace Switchboard

/-- A registry, the watchdog that looks at it, and the clock that both are shown. -/
structure Patrol (H D : Type) where
  /-- The registry. -/
  registry : Registry H D
  /-- The watchdog. -/
  watchdog : Watchdog
  /-- The time. -/
  now : Nat := 0

/-- One thing that happens. -/
inductive Patrol.Event (H D : Type)
  /-- A client offers mappings. -/
  | register (ms : List (Mapping H))
  /-- A client sets the dispatcher. -/
  | setDispatcher (d : D)
  /-- A client requests an action. -/
  | trigger (a : Action)
  /-- A client finishes an action by its identifier. -/
  | finish (a : Action)
  /-- A client finishes an invocation. -/
  | finishInvocation (i : Invocation H)
  /-- A client empties the table. -/
  | shutdown
  /-- Some time passes. -/
  | wait (time : Nat)
  /-- The watchdog looks at the registry. -/
  | check

namespace Patrol

variable {H D : Type}

/-- A registry that has just been made, under a watchdog that has not looked at it yet. -/
def start (id capacity threshold : Nat) : Patrol H D :=
  { registry := .new id capacity, watchdog := { threshold } }

/-- The step of the registry that an event is, if it is one. -/
def step? (p : Patrol H D) : Event H D → Option (Registry.Step H D)
  | .register ms => some (.register ms)
  | .setDispatcher d => some (.setDispatcher d)
  | .trigger a => some (.trigger a p.now)
  | .finish a => some (.finish a)
  | .finishInvocation i => some (.finishInvocation i)
  | .shutdown => some .shutdown
  | .wait _ => none
  | .check => none

/-- What is left of a patrol after one event. -/
def perform (p : Patrol H D) (x : Event H D) : Patrol H D where
  registry := (p.step? x).elim p.registry p.registry.perform
  watchdog := match x with
    | .check => (p.watchdog.check p.registry p.now).2
    | _ => p.watchdog
  now := match x with
    | .wait time => p.now + time
    | _ => p.now

/-- The patrol after the events of a list. -/
def run (p : Patrol H D) (events : List (Event H D)) : Patrol H D := events.foldl perform p

/-- The steps of the registry among the events of a list. -/
def steps (p : Patrol H D) : List (Event H D) → List (Registry.Step H D)
  | [] => []
  | x :: events => (p.step? x).toList ++ (p.perform x).steps events

/-- Some event ends the run of an action. -/
def Frees (p : Patrol H D) (a : Action) (events : List (Event H D)) : Prop :=
  p.registry.Frees a (p.steps events)

/-- The runs that a check sees stalled. -/
def sample (p : Patrol H D) : List StalledRun := p.registry.stalled p.watchdog.threshold p.now

/-- What a check reports. -/
def report (p : Patrol H D) : WatchdogReport := (p.watchdog.check p.registry p.now).1

/-- The actions that a check tells of now. -/
def told (p : Patrol H D) : List Action :=
  (p.watchdog.check p.registry p.now).1.fresh.map (·.action)

/-- An episode of an action: a request that comes after the events of `before` is accepted and has
to be finished, and none of the events of `during` ends the run. -/
structure Episode (p : Patrol H D) (before : List (Event H D)) (a : Action)
    (during : List (Event H D)) : Prop where
  /-- The request is accepted, and its run has to be finished. -/
  begins : ∃ i, (p.run before).registry.accepted? (.trigger a (p.run before).now) = some i ∧
    i.flags.needsFinish = true
  /-- The run is not over. -/
  goesOn : ¬ ((p.run before).perform (.trigger a)).Frees a during

/-- How old an episode is: the time that has passed since the request. -/
def age (p : Patrol H D) (before : List (Event H D)) (a : Action) (during : List (Event H D)) :
    Nat :=
  (p.run (before ++ .trigger a :: during)).now - (p.run before).now

/-- After some events an episode of an action is going on that is as old as the watchdog's
threshold. -/
def Overdue (p : Patrol H D) (events : List (Event H D)) (a : Action) : Prop :=
  ∃ before during, events = before ++ .trigger a :: during ∧ p.Episode before a during ∧
    p.watchdog.threshold ≤ p.age before a during

/-! ## Runs -/

/-- Without events the patrol stays as it is. -/
@[simp] theorem run_nil (p : Patrol H D) : p.run [] = p := rfl

/-- The first event comes first. -/
@[simp] theorem run_cons (p : Patrol H D) (x : Event H D) (events : List (Event H D)) :
    p.run (x :: events) = (p.perform x).run events := rfl

/-- A patrol can be cut anywhere. -/
theorem run_append (p : Patrol H D) (before after : List (Event H D)) :
    p.run (before ++ after) = (p.run before).run after :=
  List.foldl_append

/-- The last event comes last. -/
theorem run_concat (p : Patrol H D) (events : List (Event H D)) (x : Event H D) :
    p.run (events ++ [x]) = (p.run events).perform x := by
  rw [run_append, run_cons, run_nil]

/-- The steps of the registry are those of the one part and then those of the other. -/
theorem steps_append (p : Patrol H D) (before after : List (Event H D)) :
    p.steps (before ++ after) = p.steps before ++ (p.run before).steps after := by
  induction before generalizing p with
  | nil => rfl
  | cons x before ih => rw [List.cons_append, steps, ih, ← List.append_assoc]; rfl

/-- All that happens to the registry is the steps of clients. -/
theorem registry_run (p : Patrol H D) (events : List (Event H D)) :
    (p.run events).registry = p.registry.run (p.steps events) := by
  induction events generalizing p with
  | nil => rfl
  | cons x events ih =>
    rw [run_cons, ih, steps, Registry.run_append]
    show (Option.elim (p.step? x) p.registry p.registry.perform).run _ = _
    cases p.step? x <;> rfl

/-- What frees an action does so in one of the parts. -/
theorem frees_append (p : Patrol H D) (a : Action) (before after : List (Event H D)) :
    p.Frees a (before ++ after) ↔ p.Frees a before ∨ (p.run before).Frees a after := by
  unfold Frees Registry.Frees
  rw [steps_append, Registry.occurs_append, ← registry_run]

/-- A single event ends a run if it is a step that does. -/
theorem frees_singleton (p : Patrol H D) (a : Action) (x : Event H D) :
    p.Frees a [x] ↔ ∃ s, p.step? x = some s ∧ p.registry.EndsRun a s := by
  unfold Frees Registry.Frees
  cases hx : p.step? x <;> simp [steps, hx, Registry.Occurs]

/-- The clock never goes back. -/
theorem now_le_run (p : Patrol H D) (events : List (Event H D)) : p.now ≤ (p.run events).now := by
  induction events generalizing p with
  | nil => exact Nat.le_refl _
  | cons x events ih =>
    refine Nat.le_trans ?_ (ih _)
    cases x <;> simp [perform]

/-- The threshold stays. -/
theorem threshold_run (p : Patrol H D) (events : List (Event H D)) :
    (p.run events).watchdog.threshold = p.watchdog.threshold := by
  induction events generalizing p with
  | nil => rfl
  | cons x events ih =>
    refine (ih _).trans ?_
    cases x with
    | check => exact Watchdog.threshold_check _ _ _
    | _ => rfl

/-- The records of the registry agree all the time. -/
theorem coherent_run {p : Patrol H D} (hc : p.registry.Coherent) (events : List (Event H D)) :
    (p.run events).registry.Coherent := by
  rw [registry_run]
  exact hc.run _

/-! ## Checks -/

variable {p : Patrol H D}

/-- A check of a watchdog with a threshold is a look at the sample. -/
theorem check_eq (hon : p.watchdog.threshold ≠ 0) :
    p.watchdog.check p.registry p.now = p.watchdog.observe p.sample :=
  if_pos (by simp [Watchdog.isEnabled, hon])

/-- A check tells the difference between what the watchdog remembers and what it sees. -/
theorem report_eq (hon : p.watchdog.threshold ≠ 0) {last : List StalledRun}
    (h : p.watchdog.Remembers last) :
    p.report = .between last p.sample := by
  rw [report, check_eq hon]
  exact h.observe p.sample

/-- What a check sees is what the watchdog remembers after it. -/
theorem remembers_perform_check (hon : p.watchdog.threshold ≠ 0) :
    (p.perform .check).watchdog.Remembers p.sample := by
  show (p.watchdog.check p.registry p.now).2.Remembers p.sample
  rw [check_eq hon]
  exact p.watchdog.remembers_observe p.sample

/-- What a check tells of stands in the order of the registry. -/
theorem told_sublist (p : Patrol H D) : p.told.Sublist p.registry.registered :=
  ((p.watchdog.fresh_check_sublist p.registry p.now).map _).trans (p.registry.stalled_sublist _ _)

/-- No check tells of an action twice. -/
theorem nodup_told (hc : p.registry.Coherent) (events : List (Event H D)) :
    (p.run events).told.Nodup :=
  (p.run events).told_sublist.nodup (coherent_run hc events).nodup_registered

end Patrol

end Switchboard
