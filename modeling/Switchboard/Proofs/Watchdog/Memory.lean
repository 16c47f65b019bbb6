import Mathlib.Tactic.Common
import Switchboard.Watchdog

/-!
# What a watchdog remembers

A check goes over the flags of a watchdog three times: it clears the flags of what has ended, it
looks for what is new, and it flags that. In the end an action is flagged exactly if the check saw a
stalled run of it (`reported_observe`), whatever was flagged before. So the flags are no more than
the set of actions that the last check saw stalled (`Remembers`), and a check tells the difference
between what it sees and what the last one saw (`WatchdogReport.between`, `Remembers.observe`).
-/

namespace Switchboard

/-- The difference between two samples: the actions that were stalled in the first one and are not
any more, in order of raw numbers, and the runs of the second one whose actions were not stalled in
the first. -/
def WatchdogReport.between (last sample : List StalledRun) : WatchdogReport where
  ended := Action.all.filter fun a => a ∈ last.map (·.action) ∧ a ∉ sample.map (·.action)
  fresh := sample.filter fun run => run.action ∉ last.map (·.action)

namespace Watchdog

/-- A check leaves the threshold. -/
theorem threshold_check {H D : Type} (w : Watchdog) (r : Registry H D) (now : Nat) :
    (w.check r now).2.threshold = w.threshold := by
  unfold check
  split <;> rfl

/-- Marking adds the actions of the runs to what is marked. -/
theorem get_mark (flags : Action.Table Bool) (runs : List StalledRun) (a : Action) :
    (mark flags runs).get a = (flags.get a || runs.any (·.action == a)) := by
  induction runs generalizing flags with
  | nil => simp [mark]
  | cons run runs ih =>
    show (mark (flags.set run.action true) runs).get a = _
    rw [ih, List.any_cons]
    by_cases ha : run.action = a
    · simp [ha]
    · rw [Action.Table.get_set_ne _ _ ha, beq_false_of_ne ha, Bool.false_or]

/-- Clearing some flags leaves the others. -/
theorem get_clear (flags : Action.Table Bool) (as : List Action) (a : Action) :
    (as.foldl (fun t a => t.set a false) flags).get a = (flags.get a && !as.contains a) := by
  induction as generalizing flags with
  | nil => simp
  | cons b as ih =>
    rw [List.foldl_cons, ih, List.contains_cons]
    by_cases ha : b = a
    · simp [ha]
    · rw [Action.Table.get_set_ne _ _ ha, beq_false_of_ne (Ne.symm ha), Bool.false_or]

/-- What is flagged and not seen any more has ended. -/
theorem contains_cleared (reported still : Action.Table Bool) (a : Action) :
    (cleared reported still).contains a = (reported.get a && !still.get a) := by
  rw [Bool.eq_iff_iff, List.contains_iff_mem, cleared, List.mem_filter]
  exact and_iff_right (Action.mem_all a)

/-- The flags that are left after what has ended was cleared. -/
theorem get_kept (w : Watchdog) (stalled : List StalledRun) (a : Action) :
    ((cleared w.reported (mark (.replicate false) stalled)).foldl (fun t a => t.set a false)
      w.reported).get a = (w.reported.get a && stalled.any (·.action == a)) := by
  rw [get_clear, contains_cleared, get_mark, Action.Table.get_replicate]
  cases w.reported.get a <;> simp

/-- A check tells of the stalled runs whose actions are not flagged yet, in their order. -/
theorem fresh_observe (w : Watchdog) (stalled : List StalledRun) :
    (w.observe stalled).1.fresh = stalled.filter fun run => !w.reported.get run.action := by
  show stalled.filter _ = _
  -- A stalled run keeps its flag, so what is not flagged is what was not flagged before.
  refine List.filter_congr fun run hrun => ?_
  have hseen : stalled.any (·.action == run.action) = true :=
    List.any_eq_true.2 ⟨run, hrun, beq_self_eq_true _⟩
  rw [get_kept, hseen, Bool.and_true]

/-- After a check the flagged actions are those of the stalled runs. -/
theorem reported_observe (w : Watchdog) (stalled : List StalledRun) (a : Action) :
    (w.observe stalled).2.reported.get a = stalled.any (·.action == a) := by
  show (mark _ (w.observe stalled).1.fresh).get a = _
  rw [get_mark, get_kept, fresh_observe, List.any_filter]
  -- A stalled run of the action is flagged already or is new.
  cases hw : w.reported.get a with
  | true =>
    rw [Bool.true_and, Bool.or_eq_left_iff_imp]
    intro h
    obtain ⟨run, hrun, hboth⟩ := List.any_eq_true.1 h
    exact List.any_eq_true.2 ⟨run, hrun, (Bool.and_eq_true_iff.1 hboth).2⟩
  | false =>
    rw [Bool.false_and, Bool.false_or]
    congr 1
    funext run
    by_cases ha : run.action = a
    · simp [ha, hw]
    · rw [beq_false_of_ne ha, Bool.and_false]

/-- Some run is of an action exactly if the action is among those of the runs. -/
theorem any_action_iff (runs : List StalledRun) (a : Action) :
    runs.any (·.action == a) = true ↔ a ∈ runs.map (·.action) := by
  rw [List.any_eq_true, List.mem_map]
  simp only [beq_iff_eq]

/-- The flags of a watchdog are the actions of a sample. -/
def Remembers (w : Watchdog) (last : List StalledRun) : Prop :=
  ∀ a, w.reported.get a = true ↔ a ∈ last.map (·.action)

/-- A new watchdog remembers nothing. -/
theorem remembers_nil (threshold : Nat) : ({ threshold } : Watchdog).Remembers [] := by
  intro a
  simp

/-- After a check the watchdog remembers its sample. -/
theorem remembers_observe (w : Watchdog) (sample : List StalledRun) :
    (w.observe sample).2.Remembers sample := by
  intro a
  rw [reported_observe, any_action_iff]

/-- A check tells the difference between what the watchdog remembers and its sample. -/
theorem Remembers.observe {w : Watchdog} {last : List StalledRun} (h : w.Remembers last)
    (sample : List StalledRun) : (w.observe sample).1 = .between last sample := by
  have hended : cleared w.reported (mark (.replicate false) sample) =
      Action.all.filter fun a => a ∈ last.map (·.action) ∧ a ∉ sample.map (·.action) := by
    unfold cleared
    refine List.filter_congr fun a _ => ?_
    have hsample : (mark (.replicate false) sample).get a = true ↔ a ∈ sample.map (·.action) := by
      rw [get_mark, Action.Table.get_replicate, Bool.false_or, any_action_iff]
    rw [Bool.eq_iff_iff, Bool.and_eq_true, Bool.not_eq_true', ← Bool.not_eq_true, h a, hsample,
      decide_eq_true_iff]
  have hfresh : (w.observe sample).1.fresh =
      sample.filter fun run => run.action ∉ last.map (·.action) := by
    rw [fresh_observe]
    refine List.filter_congr fun run _ => ?_
    rw [Bool.eq_iff_iff, Bool.not_eq_true', ← Bool.not_eq_true, h run.action, decide_eq_true_iff]
  calc (w.observe sample).1
      = ⟨cleared w.reported (mark (.replicate false) sample), (w.observe sample).1.fresh⟩ := rfl
    _ = .between last sample := by rw [hended, hfresh, WatchdogReport.between]

/-- No episode is reported as ended twice. -/
theorem nodup_cleared (reported still : Action.Table Bool) : (cleared reported still).Nodup := by
  unfold cleared
  exact Action.nodup_all.filter _

/-- A check tells of no stall twice that it is over. -/
theorem nodup_ended_check {H D : Type} (w : Watchdog) (r : Registry H D) (now : Nat) :
    (w.check r now).1.ended.Nodup := by
  unfold check
  split
  · exact nodup_cleared _ _
  · exact List.nodup_nil

/-- A check tells of runs that are stalled, in their order. -/
theorem fresh_check_sublist {H D : Type} (w : Watchdog) (r : Registry H D) (now : Nat) :
    (w.check r now).1.fresh.Sublist (r.stalled w.threshold now) := by
  unfold check
  split
  · rw [fresh_observe]
    exact List.filter_sublist
  · exact List.nil_sublist _

end Watchdog

end Switchboard
