import Switchboard.Proofs.Frontend.Acts
import Switchboard.Proofs.Registry.Exclusion
import Switchboard.Proofs.Registry.Stamps

/-!
# Queues whose receiving end is dropped

With the receiving end of a queue goes what waits in it. A sender that finds no receiving end
finishes what it could not put in, but nobody finishes what was discarded: dropping a queue leaves
the registry as it is (`registry_dropQueue?`). So an action whose invocation is discarded stays busy
or keeps the dialog slot exactly if it has to be finished and nothing has ended its run before, and
no later request gets past it until someone does (`dropped_queue_keeps_action_iff`,
`dropped_queue_locks_out_dialogs`).
-/

namespace Switchboard

namespace Frontend

variable {T : Type}

open Registry FrontendM

/-- Dropping the receiving end of a queue does nothing to the registry. -/
theorem registry_dropQueue? (n : Nat) (f : Frontend T) :
    ((dropQueue? n).after f).registry = f.registry := rfl

/-- What waits in a queue is discarded with its receiving end, and nothing can be put in any more. -/
theorem queues_dropQueue? {n : Nat} {f : Frontend T} {queue : UiQueue (Invocation (Handler T))}
    (hq : f.queues[n]? = some queue) :
    ∃ queue', ((dropQueue? n).after f).queues[n]? = some queue' ∧ queue'.waiting = [] ∧
      ∀ i, queue'.send? i = none := by
  refine ⟨queue.dropReceiver, ?_, rfl, fun _ => rfl⟩
  show (f.queues.modify n (·.dropReceiver))[n]? = _
  simp [hq]

/-- Dropping the receiving end of a queue discards what waits in it and leaves the registry as it
is. Of each request whose invocation is discarded: if it is the last one of its action that was
accepted, then the action is still busy or still holds the dialog slot exactly if the invocation has
to be finished and no step has ended its run; and as long as no step ends it, a blocking action stays
busy and none of its requests is accepted, and a dialog action holds the slot and no request of any
dialog action is accepted. -/
theorem dropped_queue_keeps_action_iff (id capacity : Nat)
    (steps : List (Step (Handler T) Dispatcher)) (f : Frontend T) (n : Nat)
    (queue : UiQueue (Invocation (Handler T)))
    (hr : f.registry = some ((new id capacity).run steps)) (hq : f.queues[n]? = some queue) :
    let g := (dropQueue? n).after f
    let r : Registry (Handler T) Dispatcher := (new id capacity).run steps
    g.registry = some r ∧
      (∃ queue', g.queues[n]? = some queue' ∧ queue'.waiting = [] ∧ ∀ i, queue'.send? i = none) ∧
      ∀ i ∈ queue.waiting, ∀ before now after, steps = before ++ .trigger i.action now :: after →
        ((new id capacity).run before).accepted? (.trigger i.action now) = some i →
        let r₁ := ((new id capacity).run before).perform (.trigger i.action now)
        ((∀ j ∈ r₁.accepted after, j.action ≠ i.action) →
          (r.isBusy i.action = true ∨ r.dialogOwner = some i.action ↔
            i.flags.needsFinish = true ∧ ¬ r₁.Frees i.action after)) ∧
        ∀ later, ¬ r₁.Frees i.action (after ++ later) →
          (i.flags.blocks = true → (r.run later).isBusy i.action = true ∧
            ∀ u, (r.run later).accepted? (.trigger i.action u) = none) ∧
          (i.flags.dialog = true → (r.run later).dialogOwner = some i.action ∧
            ∀ b fl u, (r.run later).flags? b = some fl → fl.dialog = true →
              (r.run later).accepted? (.trigger b u) = none) := by
  intro g r
  refine ⟨(registry_dropQueue? n f).trans hr, queues_dropQueue? hq,
    fun i _ before now after hsteps hi => ?_⟩
  intro r₁
  have hbefore : ((new id capacity).run before : Registry (Handler T) Dispatcher).Coherent :=
    (coherent_new id capacity).run before
  have h₁ : r₁.Coherent := hbefore.perform _
  have hafter : r = r₁.run after := by
    -- The steps are cut at the request, after which the registry is coherent again.
    show (new id capacity).run steps = _
    rw [hsteps, run_append, run_cons]
  refine ⟨fun hlast => ?_, fun later hfree => ?_⟩
  · rw [hafter, ← (h₁.run after).isSome_runningSince?_iff, h₁.isSome_runningSince?_run hlast,
      hbefore.isSome_runningSince?_trigger hi]
  · -- The run goes on, and a run that goes on is enough to refuse the requests.
    have hlater : r.run later = r₁.run (after ++ later) := by rw [hafter, run_append]
    have hcoh : (r.run later).Coherent := hlater ▸ h₁.run _
    have hrunning : i.flags.needsFinish = true → (r.run later).IsRunning i.action i.flags :=
      fun hf => hlater ▸ (hbefore.isRunning_of_accepted hi hf).run h₁.toWellFormed hfree
    refine ⟨fun hb => ?_, fun hd => ?_⟩
    · have hrun := hrunning (by simp [Flags.needsFinish, hb])
      exact ⟨hrun.isBusy hcoh hb, hrun.accepted?_self hcoh hb⟩
    · have hrun := hrunning (by simp [Flags.needsFinish, hd])
      exact ⟨hrun.dialogOwner_eq hcoh hd, fun b fl u hg hgd => hrun.accepted?_dialog hcoh hd hg hgd u⟩

/-- A mapping that opens a dialog for an action, with a script that does nothing. -/
def silentDialog (a : Action) : Mapping (Handler Unit) := ⟨a, .script () [], Flags.none.asDialog⟩

/-- The frontend with a queue in which an invocation of the quit dialog waits. -/
def quitWaiting : Frontend Unit := (Frontend.start 2).play
  [.register [silentDialog .quit, silentDialog .aboutDialog], .newQueue, .setDispatcher (.queue 0),
    .request true .quit]

/-- What happened to the registry of that frontend. -/
def quitSteps : List (Step (Handler Unit) Dispatcher) :=
  [.register [silentDialog .quit, silentDialog .aboutDialog], .setDispatcher (.queue 0),
    .trigger .quit 0]

/-- The invocation that waits. -/
def quitInvocation : Invocation (Handler Unit) := ⟨0, .quit, Flags.none.asDialog, .script () [], 0⟩

/-- A quit dialog that was discarded with its queue holds the dialog slot, and even after another
queue has been made the dispatcher the dialog about the program is refused. -/
theorem dropped_queue_locks_out_dialogs :
    let g := (dropQueue? 0).after quitWaiting
    ∃ r, g.registry = some r ∧ r.dialogOwner = some .quit ∧
      ∀ u, (r.run [.setDispatcher (.queue 1)]).accepted? (.trigger .aboutDialog u) = none := by
  -- The steps before the request are the first two of the three.
  obtain ⟨hr, -, hwaiting⟩ := dropped_queue_keeps_action_iff 0 2 quitSteps quitWaiting 0
    { waiting := [quitInvocation] } rfl rfl
  obtain ⟨hkept, hlater⟩ := hwaiting quitInvocation (by simp) (quitSteps.take 2) 0 [] rfl rfl
  refine ⟨_, hr, (hkept (by simp [accepted])).2 ⟨rfl, not_false⟩ |>.resolve_left (by decide),
    fun u => ?_⟩
  exact ((hlater [.setDispatcher (.queue 1)] (by simp [Frees, Occurs, EndsRun])).2 rfl).2
    .aboutDialog Flags.none.asDialog u rfl rfl

/-- A queue is dropped while the quit dialog waits in it. The dialog is never run, and its action
holds the dialog slot. -/
theorem dropped_queue_keeps_dialog_slot :
    ¬ ∀ (id capacity : Nat) (steps : List (Step (Handler Unit) Dispatcher)) (f : Frontend Unit)
      (n : Nat) (queue : UiQueue (Invocation (Handler Unit))),
      f.registry = some ((new id capacity).run steps) → f.queues[n]? = some queue →
      ∀ i ∈ queue.waiting, ∀ before now after, steps = before ++ .trigger i.action now :: after →
        ((new id capacity).run before).accepted? (.trigger i.action now) = some i →
        (∀ j ∈ (((new id capacity).run before).perform (.trigger i.action now)).accepted after,
          j.action ≠ i.action) →
        ∀ r, ((dropQueue? n).after f).registry = some r →
          r.isBusy i.action = false ∧ r.dialogOwner ≠ some i.action := by
  intro h
  have hfree := (h 0 2 quitSteps quitWaiting 0 { waiting := [quitInvocation] } rfl rfl
    quitInvocation (by simp) (quitSteps.take 2) 0 [] rfl rfl (by simp [accepted]) _ rfl).2
  revert hfree
  decide

end Frontend

end Switchboard
