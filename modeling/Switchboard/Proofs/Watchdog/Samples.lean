import Switchboard.Proofs.Frontend.Warnings
import Switchboard.Proofs.Registry.Exclusion
import Switchboard.Proofs.Watchdog.Patrol

/-!
# Checks as differences

Each check of a watchdog takes a sample of the registry, the runs that are stalled then. A check
tells the difference between its sample and that of the check before (`WatchdogReport.between`), and
before the first check nothing was stalled. What makes this so is that the flags of the watchdog are
the last sample, as a set (`Watchdog.Remembers`): a check that finds them so reports the difference
and leaves them so (`Watchdog.Remembers.observe`), and nothing else touches them. Along any events
the reports are then the differences of neighbouring samples (`Patrol.reports_eq`).
-/

namespace Switchboard

namespace Patrol

variable {H D : Type} {p : Patrol H D} {last : List StalledRun}

/-- Something of the patrol at each check among the events of a list, in order. -/
def atChecks {α : Type} (p : Patrol H D) (look : Patrol H D → α) : List (Event H D) → List α
  | [] => []
  | x :: events =>
    let rest := (p.perform x).atChecks look events
    match x with
    | .check => look p :: rest
    | _ => rest

/-- The reports of the checks are the differences of neighbouring samples. -/
theorem reports_eq (hon : p.watchdog.threshold ≠ 0) (h : p.watchdog.Remembers last)
    (events : List (Event H D)) :
    p.atChecks report events =
      List.zipWith .between (last :: p.atChecks sample events) (p.atChecks sample events) := by
  induction events generalizing p last with
  | nil => rfl
  | cons x events ih =>
    cases x with
    | check =>
      -- The check finds the sample before it flagged and leaves its own, with which the next goes on.
      have hon' : (p.perform .check).watchdog.threshold ≠ 0 := (threshold_run p [.check]).trans_ne hon
      show p.report :: _ = _ :: List.zipWith .between (p.sample :: _) _
      rw [report_eq hon h, ih hon' (remembers_perform_check hon)]
    | _ => exact ih hon h

/-- A watchdog without threshold reports nothing and stays as it is. -/
theorem reports_of_disabled (hoff : p.watchdog.threshold = 0) (events : List (Event H D)) :
    (∀ found ∈ p.atChecks report events, found = {}) ∧ (p.run events).watchdog = p.watchdog := by
  induction events generalizing p with
  | nil => exact ⟨by simp [atChecks], rfl⟩
  | cons x events ih =>
    cases x with
    | check =>
      have hcheck : p.watchdog.check p.registry p.now = ({}, p.watchdog) :=
        if_neg (by simp [Watchdog.isEnabled, hoff])
      have hsame : (p.perform .check).watchdog = p.watchdog := by
        show (p.watchdog.check p.registry p.now).2 = _
        rw [hcheck]
      obtain ⟨hrest, hrun⟩ := ih (p := p.perform .check) (by rw [hsame, hoff])
      refine ⟨fun found hfound => ?_, hrun.trans hsame⟩
      rcases List.mem_cons.1 hfound with rfl | hfound
      · rw [report, hcheck]
      · exact hrest found hfound
    | _ => exact ih hoff

/-- Checks tell differences. A watchdog is set on a registry in any state that a new one can get
into. Whatever clients do then and however time passes, each check reports the difference between
the runs that it sees stalled and those that the check before it saw, or none before the first: the
new ones, each once and in the order of the registry, and the actions whose stall is over, each
once; and what is flagged after it is what it saw. Without a threshold no check reports anything and
nothing is ever flagged. A frontend gives the new ones and notices all of the report. -/
theorem checks_tell_differences (id capacity : Nat) (steps : List (Registry.Step H D))
    (threshold now : Nat) (events : List (Event H D)) :
    let p : Patrol H D := ⟨(Registry.new id capacity).run steps, { threshold }, now⟩
    let q := p.run events
    (threshold ≠ 0 →
      p.atChecks report events =
          List.zipWith .between ([] :: p.atChecks sample events) (p.atChecks sample events) ∧
        (q.report.fresh.map (·.action)).Sublist q.registry.registered ∧
        (q.report.fresh.map (·.action)).Nodup ∧ q.report.ended.Nodup ∧
        ∀ a, (q.perform .check).watchdog.reported.get a = true ↔ a ∈ q.sample.map (·.action)) ∧
    (threshold = 0 →
      (∀ found ∈ p.atChecks report events, found = {}) ∧
        ∀ a, q.watchdog.reported.get a = false) ∧
    ∀ {T : Type} (f : Frontend T) (w : Watchdog) (r : Registry (Handler T) Dispatcher),
      f.watchdog = some w → f.registry = some r →
      FrontendM.checkStalls?.result f = some (w.isEnabled, (w.check r f.now).1.fresh) ∧
        FrontendM.checkStalls?.after f = { f with watchdog := some (w.check r f.now).2 }.noticing
          ((w.check r f.now).1.notices r.dialogOwner) := by
  intro p q
  have hc : p.registry.Coherent := (Registry.coherent_new id capacity).run steps
  have hnew : p.watchdog.Remembers [] := Watchdog.remembers_nil threshold
  refine ⟨fun hon => ?_, fun hoff => ?_, fun f w r => FrontendM.after_checkStalls?⟩
  · have hon' : q.watchdog.threshold ≠ 0 := (threshold_run p events).trans_ne hon
    exact ⟨reports_eq hon hnew events, q.told_sublist, nodup_told hc events,
      q.watchdog.nodup_ended_check q.registry q.now, remembers_perform_check hon'⟩
  · obtain ⟨hreports, hsame⟩ := reports_of_disabled (p := p) hoff events
    refine ⟨hreports, fun a => ?_⟩
    show (p.run events).watchdog.reported.get a = false
    rw [hsame]
    exact Action.Table.get_replicate _ a

/-- A soft reset and then a dialog stall. Each is told by the first check that sees it, and the end
of the one that is finished by the check after that. -/
theorem stalls_are_told_as_they_come :
    let p : Patrol Unit Unit :=
      ⟨(Registry.new 0 2).run [.register [Registry.softReset, Registry.dialogFor .quit],
        .setDispatcher ()], { threshold := 2 }, 7⟩
    p.atChecks report [.trigger .resetSoft, .wait 1, .trigger .quit, .wait 1, .check, .wait 1, .check,
        .finish .resetSoft, .check] =
      [⟨[], [⟨.resetSoft, 2⟩]⟩, ⟨[], [⟨.quit, 2⟩]⟩, ⟨[.resetSoft], []⟩] :=
  ((checks_tell_differences 0 2 _ 2 7 _).1 (by decide)).1.trans rfl

end Patrol

end Switchboard
