import Switchboard.Proofs.Frontend.Keeps
import Switchboard.Proofs.Watchdog.Memory

/-!
# What a frontend warns of

When its watchdog looks at the registry a frontend notices three things: that a stall is over, that
a run has stalled, and that this run keeps every dialog from opening. `after_checkStalls?` says that
it notices these, in order, and changes nothing else but its watchdog. So the warnings about stalls
are those of the runs that the watchdog found to be new, in their order (`checkStalls?_warns`).
-/

namespace Switchboard

/-- The action that a notice warns of because it has gone on for too long. -/
def Notice.stalledAction? : Notice → Option Action
  | .stalled a _ => some a
  | _ => none

/-- The actions of the warnings about stalls, in order. -/
def Frontend.stallWarnings {T : Type} (f : Frontend T) : List Action :=
  f.notices.toList.filterMap (·.stalledAction?)

/-- What is noticed of a run that has stalled, while an action holds the dialog slot or none does. -/
def StalledRun.notices (owner : Option Action) (run : StalledRun) : List Notice :=
  .stalled run.action run.runningFor ::
    if owner = some run.action then [.dialogsBlocked run.action] else []

/-- What is noticed of a check: first the stalls that are over, then the new ones. -/
def WatchdogReport.notices (owner : Option Action) (report : WatchdogReport) : List Notice :=
  report.ended.map .stallEnded ++ report.fresh.flatMap (·.notices owner)

/-- The new runs are warned of, and no others. -/
theorem WatchdogReport.filterMap_notices (owner : Option Action) (report : WatchdogReport) :
    (report.notices owner).filterMap (·.stalledAction?) = report.fresh.map (·.action) := by
  have hended : (report.ended.map Notice.stallEnded).filterMap (·.stalledAction?) = [] := by
    simp [Notice.stalledAction?]
  have hfresh : ∀ run : StalledRun,
      (run.notices owner).filterMap (·.stalledAction?) = [run.action] := by
    intro run
    unfold StalledRun.notices
    split <;> rfl
  rw [notices, List.filterMap_append, hended, List.nil_append, List.filterMap_flatMap]
  simp only [hfresh, ← List.map_eq_flatMap]

namespace FrontendM

variable {T : Type}

/-- What a check of a frontend gives and does: it tells of the runs that its watchdog found to be
new, keeps what the watchdog remembers, and notices what the watchdog found. -/
theorem after_checkStalls? {f : Frontend T} {w : Watchdog} {r : Registry (Handler T) Dispatcher}
    (hw : f.watchdog = some w) (hr : f.registry = some r) :
    checkStalls?.result f = some (w.isEnabled, (w.check r f.now).1.fresh) ∧
      checkStalls?.after f = { f with watchdog := some (w.check r f.now).2 }.noticing
        ((w.check r f.now).1.notices r.dialogOwner) := by
  have hthreshold := Watchdog.threshold_check w r f.now
  unfold checkStalls?
  rw [after_bind, result_bind, after_get, result_get, hw, hr]
  dsimp only
  generalize w.check r f.now = checked at hthreshold ⊢
  obtain ⟨report, w'⟩ := checked
  constructor
  · rw [result_bind, result_bind, result_bind, result_pure, Watchdog.isEnabled, Watchdog.isEnabled,
      hthreshold]
  · -- The stalls that are over are noticed in one loop, and the new ones in another.
    have hended : ∀ (a : Action) (g : Frontend T), ((do
        notify (.stallEnded a)
        pure (ForInStep.yield PUnit.unit)).after g) = g.noticing [.stallEnded a] := by
      intro a g
      rw [after_bind, after_pure, after_notify]
    have hfresh : ∀ (run : StalledRun) (g : Frontend T), ((do
        notify (.stalled run.action run.runningFor)
        if r.dialogOwner = some run.action then
          notify (.dialogsBlocked run.action)
          pure (ForInStep.yield PUnit.unit)
        else pure (ForInStep.yield PUnit.unit)).after g) =
        g.noticing (run.notices r.dialogOwner) := by
      intro run g
      unfold StalledRun.notices
      rw [after_bind, after_notify]
      split
      · rw [after_bind, after_pure, after_notify, Frontend.noticing_noticing]
        rfl
      · rfl
    rw [after_bind, after_bind, after_bind, after_pure,
      after_forIn_noticing _ ?_ hfresh, after_forIn_noticing _ (fun _ _ => rfl) hended,
      Frontend.noticing_noticing, ← List.map_eq_flatMap, after_modify, ← hr]
    · rfl
    · intro run g
      rw [result_bind]
      split <;> rfl

/-- A check of a frontend tells of the runs that its watchdog found to be new, and warns of
exactly those. -/
theorem checkStalls?_warns {f : Frontend T} {w : Watchdog} {r : Registry (Handler T) Dispatcher}
    (hw : f.watchdog = some w) (hr : f.registry = some r) :
    checkStalls?.result f = some (w.isEnabled, (w.check r f.now).1.fresh) ∧
      (checkStalls?.after f).stallWarnings =
        f.stallWarnings ++ (w.check r f.now).1.fresh.map (·.action) := by
  obtain ⟨hresult, hafter⟩ := after_checkStalls? hw hr
  refine ⟨hresult, ?_⟩
  rw [hafter, Frontend.stallWarnings, Frontend.noticing, Array.toList_append,
    List.filterMap_append, WatchdogReport.filterMap_notices]
  rfl

end FrontendM

end Switchboard
