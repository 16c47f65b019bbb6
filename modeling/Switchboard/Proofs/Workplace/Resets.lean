import Switchboard.Proofs.Frontend.AtRest
import Switchboard.Proofs.Workplace.History

/-!
# Resets end by themselves

The handlers of resets finish their invocations before they return. With any number of clients that
is enough for a reset that is busy to have a handler that is running still, and with a client of its
own every request for a reset is carried out, and counted once, before the client goes on
(`resets_end_with_their_handlers`).
-/

namespace Switchboard

/-- What happens counts as a reset for an action if it is the action's handler that was run. -/
theorem Control.resetCount_happen {a : Action} (ha : a ∈ Action.resets) (logged : Level → Bool)
    (c : Control) (x : Happening) :
    (c.happen logged x).resetCount a = c.resetCount a + if x = .ran a then 1 else 0 := by
  have hdrive : ∀ unit, (unit, a) ∈ Happening.driveResets →
      (c.happen logged x).driveResetCount unit =
        c.driveResetCount unit + if x = .ran a then 1 else 0 := by
    intro unit hunit
    obtain ⟨i, hi⟩ := exists_driveIndex? unit (List.mem_map_of_mem (f := Prod.fst) hunit)
    rw [driveResetCount_happen hi]
    simp only [Happening.driveReset?_eq_some_iff hunit]
  -- Of the six counters two are of the machine and four of drives.
  simp only [Action.resets, List.mem_cons, List.not_mem_nil, or_false] at ha
  rcases ha with rfl | rfl | rfl | rfl | rfl | rfl
  · show (c.happen logged x).softResets = c.softResets + _
    rw [happen_eq]
  · show (c.happen logged x).hardResets = c.hardResets + _
    rw [happen_eq]
  · exact hdrive 8 (by decide)
  · exact hdrive 9 (by decide)
  · exact hdrive 10 (by decide)
  · exact hdrive 11 (by decide)

/-- What is bound to a reset is the command of a subsystem that resets the machine or a drive. -/
theorem Registry.AtRest.exists_reset {T : Type} {r : Registry (Handler T) Dispatcher}
    (h : r.AtRest) {a : Action} (ha : a ∈ Action.resets) {e : Entry (Handler T)}
    (he : r.lookup? a = some e) :
    ∃ m ∈ Domain.allMappings, m.action = a ∧ m.flags.needsUiThread = false ∧
      m.handler.finishes = true ∧ e.handler = .command m.handler := by
  obtain ⟨m, hm, heq⟩ := (h.bound a e he).exists_command
  obtain ⟨rfl, hhandler, -⟩ := Mapping.mk.inj heq
  have hui : m.flags.needsUiThread = false := by
    rw [Domain.flags_of_reset m hm ha]
    rfl
  exact ⟨m, hm, rfl, hui, (Domain.finishes_iff m hm).2 ha, hhandler⟩

/-- A command that finishes its invocation has done so when the request is answered that it was run
for. -/
theorem FrontendM.after_trigger?_of_finishes {T : Type} {f : Frontend T}
    {r : Registry (Handler T) Dispatcher} (hr : f.registry = some r) {a : Action}
    {i : Invocation (Handler T)} (hv : (r.judge a f.now).1 = .accepted i none) {c : Command}
    (hi : i.handler = .command c) (hc : c.finishes = true) (onMain : Bool) :
    ∃ notices, (trigger? onMain a).after f = { f with
      registry := some ((r.perform (.trigger a f.now)).perform (.finishInvocation i))
      control := c.effect f.setup.logged f.control
      notices := notices } := by
  have hid : (r.perform (.trigger a f.now)).id = i.registry := by
    obtain ⟨e, -, -, rfl, -⟩ := Registry.judge_accepted_iff.1 (Prod.ext hv rfl)
    exact r.id_perform _
  obtain ⟨notices, hafter⟩ := after_perform_of_finishes
    (f := { f with registry := some (r.perform (.trigger a f.now)) }.noticing [.running a]) rfl hid hc
  rw [trigger?, after_triggerWith_of_called _ hr hv, runInvocation_command hi, hafter]
  exact ⟨notices, rfl⟩

namespace Frontend

open FrontendM

variable {T : Type} {f : Frontend T}

/-- A request for a reset is carried out, and counted once, or there is no mapping for it. -/
theorem AtRest.reset (h : f.AtRest) {a : Action} (ha : a ∈ Action.resets) (onMain : Bool) :
    ((trigger? onMain a).after f).AtRest ∧
      ∃ o : Outcome, (trigger? onMain a).result f = some o ∧ (o = .ran ∨ o = .unknown) ∧
        ∀ b ∈ Action.resets, ((trigger? onMain a).after f).control.resetCount b =
          f.control.resetCount b + if a = b ∧ o ≠ .unknown then 1 else 0 := by
  obtain ⟨r, hr, hrest⟩ := h.registry
  have hresult : (trigger? onMain a).result f = some (r.judge a f.now).1.outcome := by
    rw [trigger?, result_triggerWith, hr]
    rfl
  rcases hrest.attended.judge_of_returned ha (List.forall_mem_nil _) f.now with
    ⟨-, hv⟩ | ⟨e, he, hv⟩
  -- Without a mapping the request is noticed, and nothing else happens.
  · have hafter : (trigger? onMain a).after f = f.noticing [Refusal.unknown.notice a] :=
      after_triggerWith_of_refused _ hr hv
    have hcalm : f.Calm (f.noticing [Refusal.unknown.notice a]) := .of_eq rfl rfl rfl rfl
    obtain ⟨hf, hcount⟩ := hcalm h
    rw [hafter]
    refine ⟨hf, .unknown, by rw [hresult, hv]; rfl, .inr rfl, fun b _ => ?_⟩
    rw [hcount, if_neg fun hb => hb.2 rfl, Nat.add_zero]
  -- With one the command is run at once and finishes its invocation before the request is answered.
  · obtain ⟨m, hm, haction, hui, hfinishes, hhandler⟩ := hrest.exists_reset ha he
    obtain ⟨notices, hafter⟩ := after_trigger?_of_finishes hr hv hhandler hfinishes onMain
    have hself : (r.issue e).handler.finishesItself = true := by
      rw [show (r.issue e).handler = .command m.handler from hhandler]
      exact hfinishes
    have hcalled : r.called? (.trigger a f.now) = some (r.issue e) := by
      rw [Registry.called?, hv]
      rfl
    have hregistry := hrest.call hcalled
    rw [hself, if_pos rfl] at hregistry
    rw [hafter]
    refine ⟨⟨⟨_, rfl, hregistry⟩, h.waiting, h.parked⟩, .ran, by rw [hresult, hv]; rfl, .inl rfl,
      fun b hb => ?_⟩
    show (m.handler.effect f.setup.logged f.control).resetCount b = _
    rw [Domain.effect_of_ran m hm hui, Control.resetCount_happen hb, haction]
    simp

/-! ## Sessions -/

/-- What the one who requests an action is told. -/
def Act.answer? (f : Frontend T) : Act T → Option Outcome
  | .request onMain a => (trigger? onMain a).result f
  | .requestByName onMain name => (triggerByName? onMain name).result f
  | _ => none

/-- What those are told in a session who request an action, by its identifier or by its name, in
order. -/
def answers (a : Action) (f : Frontend T) : List (Act T) → List Outcome
  | [] => []
  | x :: acts =>
    (if x.asked? = some a then (x.answer? f).toList else []) ++ answers a (x.run.after f) acts

/-- Whoever requests an action by its name requests the action. -/
theorem Act.eq_trigger? {x : Act T} {a : Action} (hx : x.asked? = some a) :
    ∃ onMain, ∀ f : Frontend T, x.run.after f = (trigger? onMain a).after f ∧
      x.answer? f = (trigger? onMain a).result f := by
  cases x with
  | request onMain b =>
    obtain rfl := Option.some.inj hx
    exact ⟨onMain, fun f => ⟨rfl, rfl⟩⟩
  | requestByName onMain name =>
    have hname : a.name = name := Action.ofName?_eq_some_iff.1 hx
    subst hname
    refine ⟨onMain, fun f => ?_⟩
    rw [← triggerByName?_name]
    exact ⟨rfl, rfl⟩
  | _ => simp [asked?] at hx

/-- With whatever a frontend at rest is asked to do, requests for a reset are carried out and counted,
and it is at rest again. -/
theorem AtRest.act (h : f.AtRest) {x : Act T} (hoffer : ∀ m ∈ x.offered, m.IsContributed)
    {a : Action} (ha : a ∈ Action.resets) :
    (x.run.after f).AtRest ∧
      (∀ o ∈ answers a f [x], o = .ran ∨ o = .unknown) ∧
      (x.run.after f).control.resetCount a =
        f.control.resetCount a + (answers a f [x]).countP (· ≠ .unknown) := by
  -- Either a reset is requested, by its identifier or its name, or nothing resets.
  by_cases hreset : ∃ b ∈ Action.resets, x.asked? = some b
  · obtain ⟨b, hb, hx⟩ := hreset
    obtain ⟨onMain, hsame⟩ := Act.eq_trigger? hx
    obtain ⟨hafter, hanswer⟩ := hsame f
    obtain ⟨hf, o, hresult, ho, hcount⟩ := h.reset hb onMain
    have hanswers : answers a f [x] = if b = a then [o] else [] := by
      rw [answers, hx, hanswer, hresult]
      simp [answers]
    rw [hafter, hanswers, hcount a ha]
    refine ⟨hf, ?_, ?_⟩
    · split_ifs
      · exact List.forall_mem_singleton.2 ho
      · exact List.forall_mem_nil _
    · congr 1
      by_cases hba : b = a <;> rcases ho with rfl | rfl <;> simp [hba]
  · have hask : ∀ b, x.asked? = some b → b ∉ Action.resets := fun b hx hb => hreset ⟨b, hb, hx⟩
    obtain ⟨hf, hcount⟩ := calm_act hoffer hask f h
    have hanswers : answers a f [x] = [] := by
      rw [answers, if_neg fun hx => hask a hx ha]
      rfl
    rw [hanswers, hcount]
    exact ⟨hf, List.forall_mem_nil _, rfl⟩

/-- In a session that starts at rest every request for a reset is answered by its run, and counts.
-/
theorem AtRest.play (h : f.AtRest) {acts : List (Act T)}
    (hacts : ∀ x ∈ acts, ∀ m ∈ x.offered, m.IsContributed) {a : Action} (ha : a ∈ Action.resets) :
    (f.play acts).AtRest ∧
      (∀ o ∈ answers a f acts, o = .ran ∨ o = .unknown) ∧
      (f.play acts).control.resetCount a =
        f.control.resetCount a + (answers a f acts).countP (· ≠ .unknown) := by
  induction acts generalizing f with
  | nil => exact ⟨h, List.forall_mem_nil _, rfl⟩
  | cons x acts ih =>
    obtain ⟨hx, hrest⟩ := List.forall_mem_cons.1 hacts
    obtain ⟨hf, hanswers, hcount⟩ := h.act hx ha
    obtain ⟨hplayed, hlater, hcounts⟩ := ih hf hrest
    have hsplit : answers a f (x :: acts) = answers a f [x] ++ answers a (x.run.after f) acts := by
      simp [answers]
    rw [hsplit]
    refine ⟨hplayed, List.forall_mem_append.2 ⟨hanswers, hlater⟩, ?_⟩
    calc ((x.run.after f).play acts).control.resetCount a
      _ = (x.run.after f).control.resetCount a +
          (answers a (x.run.after f) acts).countP (· ≠ .unknown) := hcounts
      _ = f.control.resetCount a + (answers a f [x]).countP (· ≠ .unknown) +
          (answers a (x.run.after f) acts).countP (· ≠ .unknown) := by rw [hcount]
      _ = f.control.resetCount a +
          (answers a f [x] ++ answers a (x.run.after f) acts).countP (· ≠ .unknown) := by
        rw [List.countP_append, Nat.add_assoc]

/-- A frontend with a new registry is at rest. -/
theorem atRest_start (capacity : Nat) (setup : Setup) (host : HostMode) :
    AtRest { (start capacity setup : Frontend T) with host := host } where
  registry := ⟨.new 0 capacity, rfl, Calls.attended_new 0 capacity, fun a e he => by simp at he⟩
  waiting := List.forall_mem_nil _
  parked := List.forall_mem_nil _

end Frontend

/-- Resets are over when their handlers are. In a new registry to which, for resets, nothing but
mappings of the subsystems is ever added, and whatever else for other actions, let any number of
clients and handlers do anything in any order: request actions, finish them by their identifiers or
by any invocations, set dispatchers, add mappings and empty the table. Whenever a reset is busy, one
of its handlers has been called and has yet to finish its invocation, in the epoch of the table; so
no reset is busy when all handlers have returned, and while none of a reset's handlers is running a
request for it is carried out if it has a mapping. And if only mappings of the subsystems are added,
in every session of a frontend, however it is set up, whatever the host does with dialogs and
however they are closed, each request for a reset is carried out or finds no mapping, so that none
is dropped as busy, the resets that the emulator has counted are the requests that were not unknown,
and no reset is busy in the end. -/
theorem resets_end_with_their_handlers {T D : Type} :
    (∀ (id capacity : Nat) (moves : List (Calls.Move T D)),
      (∀ x ∈ moves, ∀ m ∈ x.offered, m.action ∈ Action.resets → m.IsContributed) →
      let c := ({ registry := .new id capacity } : Calls T D).run moves
      ∀ a ∈ Action.resets,
        (c.registry.isBusy a = true → ∃ i ∈ c.running, i.action = a ∧
          i.handler.finishesItself = true ∧ i.epoch = c.registry.epoch) ∧
        (c.running = [] → c.registry.isBusy a = false) ∧
        ((∀ i ∈ c.running, i.action ≠ a) → ∀ now,
          (c.registry.judge a now).1.outcome =
            if c.registry.isRegistered a then .ran else .unknown)) ∧
    ∀ (capacity : Nat) (setup : Setup) (host : HostMode) (acts : List (Frontend.Act T)),
      (∀ x ∈ acts, ∀ m ∈ x.offered, m.IsContributed) →
      let f := { (Frontend.start capacity setup : Frontend T) with host := host }
      ∀ a ∈ Action.resets,
        (∀ o ∈ f.answers a acts, o = .ran ∨ o = .unknown) ∧
        .droppedBusy ∉ f.answers a acts ∧
        (f.play acts).control.resetCount a = (f.answers a acts).countP (· ≠ .unknown) ∧
        ∃ r, (f.play acts).registry = some r ∧ r.isBusy a = false := by
  constructor
  · intro id capacity moves hmoves c a ha
    have hfinish : ∀ x ∈ moves, ∀ m ∈ x.offered, m.ResetsFinish :=
      fun x hx m hm hreset => (hmoves x hx m hm hreset).resetsFinish hreset
    have hc : c.Attended := (Calls.attended_new id capacity).run hfinish
    refine ⟨fun hbusy => ?_, fun hreturned => ?_, fun hreturned now => ?_⟩
    · obtain ⟨i, hi, haction, hepoch⟩ := hc.busy a ha hbusy
      exact ⟨i, hi, haction, hc.running i hi (haction ▸ ha), hepoch⟩
    · refine hc.isBusy_of_returned ha ?_
      rw [hreturned]
      exact List.forall_mem_nil _
    · rw [hc.wellFormed.isRegistered_eq]
      rcases hc.judge_of_returned ha hreturned now with ⟨he, hv⟩ | ⟨e, he, hv⟩
      · rw [he, hv]
        rfl
      · rw [he, hv]
        rfl
  · intro capacity setup host acts hacts f a ha
    have hf : f.AtRest := Frontend.atRest_start capacity setup host
    obtain ⟨hplayed, hanswers, hcount⟩ := hf.play hacts ha
    obtain ⟨r, hr, hrest⟩ := hplayed.registry
    -- A new emulator has counted nothing.
    have hnone : f.control.resetCount a = 0 := by cases a <;> rfl
    refine ⟨hanswers, fun hdropped => ?_, by rw [hcount, hnone, Nat.zero_add],
      r, hr, hrest.attended.isBusy_of_returned ha (List.forall_mem_nil _)⟩
    rcases hanswers .droppedBusy hdropped with h | h <;> contradiction

/-- The handler of a table that was emptied returns late, and does nothing to the reset of the next
table, whose own handler is running. And beside the quit dialog, which stays open, the machine is
reset twice, by the identifier and by the name. -/
theorem reset_beside_late_handler_and_open_dialog :
    let moves : List (Calls.Move Unit Unit) :=
      [.step (.register (FrontendM.domainMappings .system)), .step (.trigger .resetSoft 0),
        .step .shutdown, .step (.register (FrontendM.domainMappings .system)),
        .step (.trigger .resetSoft 5), .leave 0]
    let c := ({ registry := .new 0 1 } : Calls Unit Unit).run moves
    let f : Frontend Unit := { (Frontend.start 1 : Frontend Unit) with host := .hold }
    let acts : List (Frontend.Act Unit) :=
      [.registerAll .c64, .setDispatcher .runNow, .request true .quit, .request true .resetSoft,
        .requestByName true "reset-soft"]
    (c.registry.isBusy .resetSoft = true ∧ ∃ i ∈ c.running, i.action = .resetSoft ∧
      i.handler.finishesItself = true ∧ i.epoch = c.registry.epoch) ∧
    (f.play acts).dialogs.map (·.kind) = [.confirmQuit] ∧ f.answers .resetSoft acts = [.ran, .ran] ∧
      (f.play acts).control.resetCount .resetSoft = 2 := by
  intro moves c f acts
  obtain ⟨hcalls, hsessions⟩ := resets_end_with_their_handlers (T := Unit) (D := Unit)
  have hsystem : ∀ m ∈ (FrontendM.domainMappings .system : List (Mapping (Handler Unit))),
      m.action ∈ Action.resets → m.IsContributed := fun m hm _ => ⟨.system, by decide, hm⟩
  have hmoves : ∀ x ∈ moves, ∀ m ∈ x.offered, m.action ∈ Action.resets → m.IsContributed := by
    simpa [moves, Calls.Move.offered] using hsystem
  have hacts : ∀ x ∈ acts, ∀ m ∈ x.offered, m.IsContributed := by
    simp [acts, Frontend.Act.offered]
  have hbusy : c.registry.isBusy .resetSoft = true := by decide
  have hanswers : f.answers .resetSoft acts = [.ran, .ran] := by decide +kernel
  obtain ⟨hattended, -⟩ := hcalls 0 1 moves hmoves .resetSoft (by decide)
  obtain ⟨-, -, hcount, -⟩ := hsessions 1 {} .hold acts hacts .resetSoft (by decide)
  refine ⟨⟨hbusy, hattended hbusy⟩, by decide +kernel, hanswers, ?_⟩
  rw [hanswers] at hcount
  exact hcount

end Switchboard
