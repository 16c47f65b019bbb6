import Switchboard.Proofs.Frontend.Commands
import Switchboard.Proofs.Registry.Newcomers

/-!
# Filling a registry that is in use

All subsystems together offer a registry the mappings that a machine supports, one subsystem after
the other, each call with the filter inside. That is one call of the registry with all of these
mappings (`registerAll_eq_register`). No action is contributed twice and the reserved identifier is
not contributed at all, so what is taken of them depends on the table that is there alone: the
mappings of those actions that have none (`supported_actions_are_added`).
-/

namespace Switchboard

namespace Registry

variable {H D : Type} {r : Registry H D}

/-- The report on what a filter lets pass of a list tells nothing of what it holds back. -/
theorem ofEnrolments_enrolWhere (r : Registry H D) (keep : Action → Bool) (ms : List (Mapping H)) :
    Report.ofEnrolments (r.enrolWhere keep ms).1 =
      (r.register (ms.filter (keep ·.action))).1 := by
  induction ms generalizing r with
  | nil => rfl
  | cons m ms ih =>
    unfold enrolWhere
    dsimp only
    rw [Report.ofEnrolments_cons]
    cases hk : keep m.action with
    | true =>
      rw [List.filter_cons_of_pos (by exact hk), register_cons, if_pos rfl, ih]
    | false =>
      rw [List.filter_cons_of_neg (by simp [hk]), if_neg Bool.false_ne_true, ih]
      exact Report.empty_append _

/-- Calls one after the other, as steps. -/
theorem run_register (r : Registry H D) (mss : List (List (Mapping H))) :
    r.run (mss.map .register) = (r.registerEach mss).2 := by
  induction mss generalizing r with
  | nil => rfl
  | cons ms mss ih => exact ih (r.register ms).2

end Registry

/-- The actions that the subsystems contribute and a machine supports, in order. -/
def Domain.supported (machine : Machine) : List Action :=
  (allMappings.map (·.action)).filter (·.isSupportedBy machine)

namespace Domain

variable {T : Type} (machine : Machine)

/-- No action is supported twice. -/
theorem nodup_supported : (supported machine).Nodup := actions_nodup.filter _

/-- The reserved identifier is not contributed. -/
theorem isReal_of_mem_supported {a : Action} (ha : a ∈ supported machine) : a.isReal = true := by
  have hall : ∀ m ∈ allMappings, m.action.isReal = true := by decide
  obtain ⟨m, hm, rfl⟩ := List.mem_map.1 (List.mem_filter.1 ha).1
  exact hall m hm

/-- The mappings for a machine are for the actions that it supports. -/
theorem map_action_commands :
    (commands machine : List (Mapping (Handler T))).map (·.action) = supported machine := by
  have hone : ∀ d : Domain, (((FrontendM.domainMappings d : List (Mapping (Handler T))).filter
      (·.action.isSupportedBy machine)).map (·.action)) =
        (d.mappings.map (·.action)).filter (·.isSupportedBy machine) := by
    intro d
    unfold FrontendM.domainMappings
    rw [List.filter_map, List.map_map, List.filter_map]
    rfl
  unfold commands supported allMappings
  rw [List.map_flatMap, List.map_flatMap, List.filter_flatMap]
  simp only [hone]

/-- No two mappings of the subsystems are for one action. -/
theorem nodup_commands :
    ((commands machine : List (Mapping (Handler T))).map (·.action)).Nodup := by
  rw [map_action_commands]
  exact nodup_supported machine

/-- The subsystems contribute mappings of real actions only. -/
theorem isReal_of_mem_commands :
    ∀ m ∈ (commands machine : List (Mapping (Handler T))), m.action.isReal = true := by
  intro m hm
  have hmem : m.action ∈ supported machine := by
    rw [← map_action_commands (T := T)]
    exact List.mem_map_of_mem hm
  exact isReal_of_mem_supported machine hmem

end Domain

/-! ## What is taken of the mappings for a machine -/

namespace Registry.WellFormed

variable {T : Type} {r : Registry (Handler T) Dispatcher} (machine : Machine)

/-- After the registration an action is registered if it was before or the machine supports it. -/
theorem isRegistered_register_commands (h : r.WellFormed) (a : Action) :
    (r.register (Domain.commands machine)).2.isRegistered a = true ↔
      r.isRegistered a = true ∨ a ∈ Domain.supported machine := by
  rw [h.isRegistered_register, Bool.or_eq_true, List.any_eq_true,
    ← Domain.map_action_commands (T := T), List.mem_map]
  refine or_congr_right (exists_congr fun m => and_congr_right fun hm => ?_)
  rw [Domain.isReal_of_mem_commands machine m hm, Bool.true_and, beq_iff_eq]

/-- The mappings are taken whose actions have none before. -/
theorem entries_register_commands (h : r.WellFormed) :
    (r.register (Domain.commands machine)).2.entries = r.entries ++
      ((Domain.commands machine).filter (!r.isRegistered ·.action)).map .ofMapping := by
  rw [h.entries_register, Mapping.newcomers_eq_filter (Domain.isReal_of_mem_commands machine)
    (Domain.nodup_commands machine)]

/-- The report tells for which actions there was a mapping before. -/
theorem report_register_commands (h : r.WellFormed) :
    (r.register (Domain.commands machine)).1 =
      ⟨((Domain.supported machine).filter (!r.isRegistered ·)).length,
        (Domain.supported machine).filter r.isRegistered⟩ := by
  have hreal := Domain.isReal_of_mem_commands (T := T) machine
  have hnodup := Domain.nodup_commands (T := T) machine
  rw [h.report_register, Mapping.newcomers_eq_filter hreal hnodup,
    Mapping.leftovers_eq_filter hreal hnodup, ← Domain.map_action_commands (T := T),
    List.filter_map, List.filter_map, List.length_map]
  rfl

/-- Nothing is taken of them the second time. -/
theorem register_commands_again (h : r.WellFormed) :
    (r.register (Domain.commands machine)).2.register (Domain.commands machine) =
      (⟨0, Domain.supported machine⟩, (r.register (Domain.commands machine)).2) := by
  rw [register_of_registered, Domain.map_action_commands]
  intro m hm
  rw [h.isRegistered_register_commands, ← Domain.map_action_commands (T := T)]
  exact .inr (List.mem_map_of_mem hm)

end Registry.WellFormed

namespace FrontendM

variable {T : Type} {f : Frontend T} {r : Registry (Handler T) Dispatcher}

/-- The report on mappings that are offered for a machine is that on those which it supports. -/
theorem result_registerFor (hr : f.registry = some r) (machine : Machine)
    (ms : List (Mapping (Handler T))) :
    (registerFor (some machine) ms).result f =
      (r.register (ms.filter (·.action.isSupportedBy machine))).1 := by
  obtain ⟨-, hresult⟩ :=
    after_useRegistry?_some (·.enrolWhere (fun a => a.isSupportedBy machine) ms) hr
  rw [← Registry.ofEnrolments_enrolWhere r (·.isSupportedBy machine) ms]
  unfold registerFor
  simp only [result_bind, Option.all_some, hresult, Option.getD_some]
  -- What is said of the report afterwards does not change it.
  generalize FrontendM.after (ForIn.forIn (_ : List (Action × Enrolment)) PUnit.unit _) _ = g
  cases (ask? (·.size) : FrontendM T (Option Nat)).result g <;> rfl

/-- The reports on the subsystems are put together. -/
theorem result_registerAll (hr : f.registry = some r) (machine : Machine) :
    (registerAll machine).result f = (r.registerEach (Domain.all.map fun d =>
      (domainMappings d).filter (·.action.isSupportedBy machine))).1 := by
  unfold registerAll
  rw [← Report.empty_append (r.registerEach _).1]
  -- The report so far stands in front of that on the subsystems to come.
  generalize Domain.all = ds, ({} : Report) = report
  rw [result_bind]
  simp only [result_pure]
  induction ds generalizing f r report with
  | nil => exact (Report.append_empty report).symm
  | cons d ds ih =>
    obtain ⟨notices, hfirst⟩ := after_registerFor_some hr machine (domainMappings d)
    rw [List.forIn_cons]
    simp only [result_bind, after_bind, hfirst, result_registerFor hr, result_pure, after_pure]
    rw [ih rfl, Report.append_assoc]
    rfl

/-- To fill a registry is one call of it with all that the machine supports. -/
theorem registerAll_eq_register (hr : f.registry = some r) (machine : Machine) :
    (registerAll machine).result f = (r.register (Domain.commands machine)).1 ∧
      ∃ notices, (registerAll machine).after f =
        { f with
          registry := some (r.register (Domain.commands machine)).2
          notices := notices } := by
  -- Four calls in a row take what one call with all of it takes, since first mappings win.
  have hcalls : r.registerEach (Domain.all.map fun d =>
      (domainMappings d).filter (·.action.isSupportedBy machine)) =
        r.register (Domain.commands machine) := by
    rw [Registry.registerEach_eq, Domain.commands, List.flatMap_def]
  obtain ⟨notices, hafter⟩ := after_registerAll hr machine
  refine ⟨by rw [result_registerAll hr, hcalls], notices, ?_⟩
  have hsteps := Registry.run_register r (Domain.all.map fun d =>
    (domainMappings d).filter (·.action.isSupportedBy machine))
  rw [List.map_map, hcalls] at hsteps
  rw [hafter, ← hsteps]
  rfl

/-- Filling a registry adds the supported actions that are missing. For every machine, in every
frontend whose registry is in a state that a new one can get into, whoever has added mappings to it
and whatever is running: one call of the registry with the mappings of all subsystems for supported
actions gives the same report and the same registry; an action has a mapping afterwards if it had
one or if it is contributed and supported; the entries that were there stay as they are, and those
for the missing actions come behind them, idle and in order; what leads to the UI thread, the dialog
slot, the epoch and the rest of the frontend are untouched; and the report counts the missing
actions and names the others in order. Filling it again adds nothing, turns down each supported
action once, and changes nothing but the record. -/
theorem supported_actions_are_added {id capacity : Nat}
    {steps : List (Registry.Step (Handler T) Dispatcher)}
    (hr : f.registry = some ((Registry.new id capacity).run steps)) (machine : Machine) :
    let r : Registry (Handler T) Dispatcher := (Registry.new id capacity).run steps
    let r' := (r.register (Domain.commands machine)).2
    let supported := Domain.supported machine
    let report := (registerAll machine).result f
    let g := (registerAll machine).after f
    report = (r.register (Domain.commands machine)).1 ∧
      (∃ notices, g = { f with registry := some r', notices := notices }) ∧
      (∀ a, r'.isRegistered a = true ↔ r.isRegistered a = true ∨ a ∈ supported) ∧
      (∀ a e, r.lookup? a = some e → r'.lookup? a = some e) ∧
      r'.entries = r.entries ++
        ((Domain.commands machine).filter (!r.isRegistered ·.action)).map (fun m =>
          { action := m.action, handler := m.handler, flags := m.flags, busy := false,
            runningSince := none }) ∧
      r'.dispatcher = r.dispatcher ∧ r'.dialogOwner = r.dialogOwner ∧ r'.epoch = r.epoch ∧
      report.added = (supported.filter (!r.isRegistered ·)).length ∧
      report.rejected = supported.filter r.isRegistered ∧
      supported.Nodup ∧
      (registerAll machine).result g = ⟨0, supported⟩ ∧
      ∃ notices, (registerAll machine).after g = { g with notices := notices } := by
  intro r r' supported report g
  have h : r.WellFormed := (Registry.wellFormed_new id capacity).run steps
  obtain ⟨hreport, notices, hafter⟩ := registerAll_eq_register hr machine
  have hr' : g.registry = some r' := congrArg Frontend.registry hafter
  obtain ⟨hreport', notices', hafter'⟩ := registerAll_eq_register hr' machine
  have hcounts := hreport.trans (h.report_register_commands machine)
  have hagain := h.register_commands_again machine
  obtain ⟨-, hdispatcher, howner, hepoch⟩ :=
    Registry.enrolWhere_frame r (fun _ => true) (Domain.commands machine)
  refine ⟨hreport, ⟨notices, hafter⟩, h.isRegistered_register_commands machine,
    fun a e he => h.lookup?_register he _, h.entries_register_commands machine, hdispatcher, howner,
    hepoch, congrArg Report.added hcounts, congrArg Report.rejected hcounts,
    Domain.nodup_supported machine, ?_, notices', ?_⟩
  · rw [hreport', hagain]
  · rw [hafter', hagain, ← hr']

/-- A frontend in which the soft reset was bound to a script, which is running. -/
def resetting : Frontend Unit :=
  { Frontend.start 1 with
    registry := some ((Registry.new 0 1).run
      [.register [⟨.resetSoft, .script () [], Flags.none.blocking⟩], .trigger .resetSoft 5]) }

/-- Its registry is filled beside that run, for a machine without drives: the reset alone is turned
down, and it keeps running. -/
theorem filled_beside_a_run :
    ((registerAll .vsid).result resetting).rejected = [.resetSoft] ∧
      (((registerAll .vsid).after resetting).registry.any (·.isBusy .resetSoft)) = true ∧
      (registerAll .vsid).result ((registerAll .vsid).after resetting) =
        ⟨0, Domain.supported .vsid⟩ := by
  obtain ⟨-, ⟨notices, hafter⟩, -, hkept, -, -, -, -, -, hrejected, -, hagain, -⟩ :=
    supported_actions_are_added (f := resetting) rfl .vsid
  -- The run was there before, so its entry is as it was.
  refine ⟨hrejected.trans (by decide), ?_, hagain⟩
  have hbusy := hkept .resetSoft _ rfl
  simp only [hafter, Option.any_some, Registry.isBusy, hbusy]
  rfl

end FrontendM

end Switchboard
