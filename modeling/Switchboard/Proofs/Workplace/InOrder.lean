import Switchboard.Proofs.Workplace.Run

/-!
# Workplaces in order

A workplace is in order if its registry was filled with the mappings of all subsystems, its
dispatcher is a sender of its one queue, and its host keeps dialogs open: then whatever is in hand,
waits or is open was issued by the registry, and its handler is a command of a subsystem. `Turn` says
all that a move can do then, and `InOrder.turn` that it says so. From it follows that a workplace
stays in order (`InOrder.run`), and with it is shown what else holds of all runs.
-/

namespace Switchboard

open FrontendM

variable {T : Type} {machine : Machine}

/-- A registry that was filled for a machine with the mappings of all subsystems and has a sender of
the first queue as its dispatcher, in whatever state its runs are. -/
structure Registry.Furnished (machine : Machine) (r : Registry (Handler T) Dispatcher) : Prop where
  /-- It is the first registry. -/
  id : r.id = 0
  /-- It was not emptied since. -/
  epoch : r.epoch = 0
  /-- What needs the UI thread goes to the first queue. -/
  dispatcher : r.dispatcher = some (.queue 0)
  /-- What was offered to it is what the subsystems contribute for the machine. -/
  offered : ∃ capacity steps, r = (new 0 capacity).run steps ∧
    Registry.offered steps = Domain.commands machine

/-- An invocation that such a registry has issued, for the UI thread or not. -/
structure Issued (machine : Machine) (onUi : Bool) (i : Invocation (Handler T)) : Prop where
  /-- The first registry has issued it. -/
  registry : i.registry = 0
  /-- The registry was not emptied before. -/
  epoch : i.epoch = 0
  /-- Its mapping is the first that the subsystems contribute for its action. -/
  mapping : Mapping.firstFor? (Domain.commands machine) i.action = some i.mapping
  /-- It needs the UI thread or not. -/
  needsUiThread : i.flags.needsUiThread = onUi

/-- A request for a dialog that such an invocation has made. -/
structure Asked (machine : Machine) (request : DialogRequest (Handler T)) : Prop where
  /-- The invocation is for the UI thread. -/
  issued : Issued machine true request.invocation
  /-- Its handler asks for this dialog. -/
  handler : request.invocation.handler = .command (.openDialog request.kind request.onAccept)

/-- What was issued runs a command of a subsystem. -/
theorem Issued.exists_performs {onUi : Bool} {i : Invocation (Handler T)}
    (h : Issued machine onUi i) : ∃ m, i.Performs m :=
  Domain.exists_performs (List.mem_of_find?_eq_some h.mapping)

/-- A handler that asks for a dialog is for the UI thread. -/
theorem Issued.asked {onUi : Bool} {i : Invocation (Handler T)} (h : Issued machine onUi i)
    {m : Mapping Command} (hm : i.Performs m) {request : DialogRequest (Handler T)}
    (hrequest : m.handler.request? i = some request) :
    onUi = true ∧ request.invocation = i ∧ Asked machine request := by
  obtain ⟨⟨kind, onAccept⟩, hdialog, rfl⟩ := Option.map_eq_some_iff.1 hrequest
  have hui : onUi = true := by
    have hflag := Domain.isSome_dialog? m hm.mem
    rw [hdialog] at hflag
    rw [← h.needsUiThread, hm.flags, Flags.needsUiThread, ← hflag]
    exact Bool.or_true _
  have hcommand := Command.dialog?_eq_some_iff.1 hdialog
  exact ⟨hui, rfl, hui ▸ h, hm.handler.trans (congrArg _ hcommand)⟩

namespace Registry.Furnished

variable {r : Registry (Handler T) Dispatcher}

/-- A furnished registry is one that steps have led to, so its records agree. -/
theorem coherent (h : r.Furnished machine) : r.Coherent := by
  obtain ⟨capacity, steps, rfl, -⟩ := h.offered
  exact (coherent_new 0 capacity).run steps

/-- A registry stays furnished as long as its table and its dispatcher are left alone. -/
theorem perform (h : r.Furnished machine) {x : Step (Handler T) Dispatcher} (hs : x ≠ .shutdown)
    (hd : ∀ d, x ≠ .setDispatcher d) (ho : ∀ ms, x.onOffer ms = ms) :
    (r.perform x).Furnished machine where
  id := (id_perform r x).trans h.id
  epoch := by
    rcases epoch_perform r x with ⟨rfl, -⟩ | ⟨-, he⟩
    · exact absurd rfl hs
    · exact he.trans h.epoch
  -- No step but one that sets the dispatcher or empties the table changes where it leads.
  dispatcher := by
    rw [dispatcher_perform]
    cases x with
    | setDispatcher d => exact absurd rfl (hd d)
    | shutdown => exact absurd rfl hs
    | _ => exact h.dispatcher
  offered := by
    obtain ⟨capacity, steps, rfl, hoffered⟩ := h.offered
    refine ⟨capacity, steps ++ [x], ?_, ?_⟩
    · rw [run_append]
      rfl
    · rw [Registry.offered, List.foldl_append]
      exact (ho _).trans hoffered

/-- A request leaves it furnished. -/
theorem trigger (h : r.Furnished machine) (a : Action) (now : Nat) :
    (r.perform (.trigger a now)).Furnished machine :=
  h.perform (by simp) (by simp) fun _ => rfl

/-- The finish of an invocation leaves it furnished. -/
theorem finishInvocation (h : r.Furnished machine) (i : Invocation (Handler T)) :
    (r.perform (.finishInvocation i)).Furnished machine :=
  h.perform (by simp) (by simp) fun _ => rfl

/-- What a command does to the registry leaves it furnished. -/
theorem run_command (h : r.Furnished machine) (i : Invocation (Handler T)) (finishes : Bool) :
    (if finishes then r.perform (.finishInvocation i) else r).Furnished machine := by
  cases finishes with
  | true => exact h.finishInvocation i
  | false => exact h

/-- The flags of an action's mapping are those with which its invocations were issued. -/
theorem flags?_eq (h : r.Furnished machine) {onUi : Bool} {i : Invocation (Handler T)}
    (hi : Issued machine onUi i) {f : Flags} (hf : r.flags? i.action = some f) : f = i.flags := by
  obtain ⟨capacity, steps, rfl, hoffered⟩ := h.offered
  obtain ⟨e, he, rfl⟩ := Option.map_eq_some_iff.1 hf
  -- The entry is that of the first mapping that was offered for the action, and so is the
  -- invocation.
  have hfirst := lookup?_run 0 capacity steps i.action
  rw [he, hoffered, hi.mapping] at hfirst
  exact congrArg Prod.snd (Option.some.inj hfirst)

/-- What such a registry accepts is an invocation for the action, to be run at once or to be sent to
the first queue. -/
theorem issued (h : r.Furnished machine) {a : Action} {now : Nat} {i : Invocation (Handler T)}
    {route : Option Dispatcher} (hv : (r.judge a now).1 = .accepted i route) :
    i.action = a ∧ Issued machine route.isSome i ∧ ∀ d, route = some d → d = .queue 0 := by
  have hj : r.judge a now = (.accepted i route, (r.judge a now).2) := by rw [← hv]
  obtain ⟨hi, hu, hd⟩ := Traffic.judge_accepted hj
  obtain ⟨e, he, -, rfl⟩ := accepted?_trigger_iff.1 hi
  obtain ⟨capacity, steps, hr, hoffered⟩ := h.offered
  obtain ⟨haction, hfirst⟩ := firstFor?_of_accepted (hr ▸ hi)
  rw [hoffered] at hfirst
  refine ⟨haction, ⟨h.id, h.epoch, haction.symm ▸ hfirst, hu⟩, fun d hroute => ?_⟩
  exact Option.some.inj ((hd d hroute).symm.trans h.dispatcher)

end Registry.Furnished

namespace Workplace

/-- What holds in a workplace with a furnished registry. -/
structure InOrder (machine : Machine) (w : Workplace T) : Prop where
  /-- The registry is furnished. -/
  registry : ∃ r, w.frontend.registry = some r ∧ r.Furnished machine
  /-- The host keeps dialogs open. -/
  host : w.frontend.host = .hold
  /-- There is one queue, whose receiving end is there. -/
  queue : ∃ q, w.frontend.queues = [q] ∧ q.receiving = true
  /-- What is carried is for the UI thread, and goes to that queue. -/
  carried : ∀ p ∈ w.carried, p.1 = .queue 0 ∧ Issued machine true p.2
  /-- So is what waits. -/
  waiting : ∀ i ∈ w.frontend.waiting 0, Issued machine true i
  /-- So is what was taken out. -/
  taken : ∀ i ∈ w.taken, Issued machine true i
  /-- What is run at once is not for the UI thread. -/
  called : ∀ i ∈ w.called, Issued machine false i
  /-- Every dialog that is open was asked for. -/
  dialogs : ∀ request ∈ w.frontend.dialogs, Asked machine request
  /-- So was every dialog that the user has left. -/
  closing : ∀ request ∈ w.closing, Asked machine request

/-- What a move can do in a workplace in order, and what happens with it. Records are left open. -/
inductive Turn (w : Workplace T) : Option Happening → Workplace T → Prop
  /-- Nothing is done but for records and the clock. -/
  | aside (f : Frontend T) (hsetup : f.setup = w.frontend.setup)
      (hregistry : f.registry = w.frontend.registry) (hcontrol : f.control = w.frontend.control)
      (hhost : f.host = w.frontend.host) (hqueues : f.queues = w.frontend.queues)
      (hdialogs : f.dialogs = w.frontend.dialogs) :
      Turn w none { w with frontend := f }
  /-- A request is accepted, and its handler is to be run at once. -/
  | called {r : Registry (Handler T) Dispatcher} {a : Action} {now : Nat}
      {i : Invocation (Handler T)} (hr : w.frontend.registry = some r)
      (hv : (r.judge a now).1 = .accepted i none) (notices : Array Notice) :
      Turn w none { w with
        frontend := { w.frontend with registry := some (r.perform (.trigger a now)), notices }
        called := w.called ++ [i] }
  /-- A request is accepted, and is to be handed over. -/
  | carried {r : Registry (Handler T) Dispatcher} {a : Action} {now : Nat}
      {i : Invocation (Handler T)} {d : Dispatcher} (hr : w.frontend.registry = some r)
      (hv : (r.judge a now).1 = .accepted i (some d)) (notices : Array Notice) :
      Turn w none { w with
        frontend := { w.frontend with registry := some (r.perform (.trigger a now)), notices }
        carried := w.carried ++ [(d, i)] }
  /-- What was carried is put into the queue. -/
  | handedOver {place : Nat} {d : Dispatcher} {i : Invocation (Handler T)}
      {q : UiQueue (Invocation (Handler T))} (hi : w.carried[place]? = some (d, i))
      (hq : w.frontend.queues = [q]) :
      Turn w none { w with
        frontend := { w.frontend with queues := [{ q with waiting := q.waiting ++ [i] }] }
        carried := w.carried.eraseIdx place }
  /-- What was to be run at once is run. -/
  | ran {place : Nat} {i : Invocation (Handler T)} {r : Registry (Handler T) Dispatcher}
      {m : Mapping Command} (hi : w.called[place]? = some i) (hr : w.frontend.registry = some r)
      (hm : i.Performs m) (events : Array (Event T)) (notices : Array Notice) :
      Turn w (some (.ran i.action)) { w with
        frontend := { w.frontend with
          registry := some (if m.handler.finishes then r.perform (.finishInvocation i) else r)
          control := m.handler.effect w.frontend.setup.logged w.frontend.control
          dialogs := w.frontend.dialogs ++ (m.handler.request? i).toList
          events, notices }
        called := w.called.eraseIdx place }
  /-- What has waited longest is taken out of the queue. -/
  | taken {i : Invocation (Handler T)} {rest : List (Invocation (Handler T))}
      {q : UiQueue (Invocation (Handler T))} (hq : w.frontend.queues = [q])
      (hw : q.waiting = i :: rest) (notices : Array Notice) :
      Turn w none { w with
        frontend := { w.frontend with queues := [{ q with waiting := rest }], notices }
        taken := w.taken ++ [i] }
  /-- What was taken out is run. -/
  | executed {place : Nat} {i : Invocation (Handler T)} {r : Registry (Handler T) Dispatcher}
      {m : Mapping Command} (hi : w.taken[place]? = some i) (hr : w.frontend.registry = some r)
      (hm : i.Performs m) (events : Array (Event T)) (notices : Array Notice) :
      Turn w (some (.executed i.action)) { w with
        frontend := { w.frontend with
          registry := some (if m.handler.finishes then r.perform (.finishInvocation i) else r)
          control := m.handler.effect w.frontend.setup.logged w.frontend.control
          dialogs := w.frontend.dialogs ++ (m.handler.request? i).toList
          events, notices }
        taken := w.taken.eraseIdx place }
  /-- The user leaves a dialog. -/
  | left {place : Nat} {request : DialogRequest (Handler T)} {outcome : DialogOutcome}
      (hrequest : w.frontend.dialogs[place]? = some request) (events : Array (Event T))
      (notices : Array Notice) :
      Turn w (some (.closed request.kind outcome)) { w with
        frontend := { w.frontend with
          control := request.onAccept.effect outcome w.frontend.control
          dialogs := w.frontend.dialogs.eraseIdx place
          events, notices }
        closing := w.closing ++ [request] }
  /-- The invocation of a dialog that was left is finished. -/
  | finished {place : Nat} {request : DialogRequest (Handler T)}
      {r : Registry (Handler T) Dispatcher} (hrequest : w.closing[place]? = some request)
      (hr : w.frontend.registry = some r) (notices : Array Notice) :
      Turn w none { w with
        frontend := { w.frontend with
          registry := some (r.perform (.finishInvocation request.invocation)), notices }
        closing := w.closing.eraseIdx place }

/-- What waits in the first queue if it is the only one. -/
theorem waiting_of_queues {f : Frontend T} {q : UiQueue (Invocation (Handler T))}
    (hq : f.queues = [q]) : f.waiting 0 = q.waiting := by
  rw [Frontend.waiting, hq]
  rfl

namespace InOrder

variable {w : Workplace T}

/-! ## What moves do -/

/-- A request is accepted to be run at once, or to be handed over, or nothing is done. -/
theorem turn_request (h : w.InOrder machine) (a : Action) : w.Turn none (w.request a) := by
  obtain ⟨r, hr, -⟩ := h.registry
  cases hv : (r.judge a w.frontend.now).1 with
  | refused why =>
    rw [request_of_refused hr hv]
    exact .aside _ rfl rfl rfl rfl rfl rfl
  | accepted i route =>
    cases route with
    | none =>
      rw [request_of_called hr hv]
      exact .called hr hv _
    | some d =>
      rw [request_of_carried hr hv]
      exact .carried hr hv _

/-- What a handler does: its command changes the emulator, asks for a dialog, or finishes. -/
theorem after_run (h : w.InOrder machine) {onUi : Bool} {i : Invocation (Handler T)}
    (hi : Issued machine onUi i) (onMain : Bool) :
    ∃ r m events notices, w.frontend.registry = some r ∧ i.Performs m ∧
      (runInvocation onMain i).after w.frontend =
        { w.frontend with
          registry := some (if m.handler.finishes then r.perform (.finishInvocation i) else r)
          control := m.handler.effect w.frontend.setup.logged w.frontend.control
          dialogs := w.frontend.dialogs ++ (m.handler.request? i).toList
          events := events
          notices := notices } := by
  obtain ⟨r, hr, hf⟩ := h.registry
  obtain ⟨m, hm⟩ := hi.exists_performs
  obtain ⟨events, notices, hafter⟩ :=
    after_perform hr (hf.id.trans hi.registry.symm) h.host m.handler
  exact ⟨r, m, events, notices, hr, hm, by rw [runInvocation_command hm.handler, hafter]⟩

/-- What is handed over is put into the queue, if it is carried at all. -/
theorem turn_handOver (h : w.InOrder machine) (onMain : Bool) (place : Nat) :
    w.Turn none (w.perform (.handOver onMain place)) := by
  cases hp : w.carried[place]? with
  | none =>
    have heq : w.perform (.handOver onMain place) = w := by simp only [perform, hp]
    rw [heq]
    exact .aside _ rfl rfl rfl rfl rfl rfl
  | some p =>
    obtain ⟨d, i⟩ := p
    obtain ⟨q, hq, hopen⟩ := h.queue
    obtain rfl : d = .queue 0 := (h.carried _ (List.mem_of_getElem? hp)).1
    -- The receiving end is there, so nothing is turned away.
    have hsent : w.frontend.queues[0]?.bind (·.send? i) =
        some { q with waiting := q.waiting ++ [i] } := by
      rw [hq]
      exact UiQueue.send?_eq_some_iff.2 ⟨hopen, rfl⟩
    rcases after_send 0 i w.frontend with ⟨queue, hqueue, hafter⟩ | ⟨hnone, -⟩
    · obtain rfl := Option.some.inj (hsent.symm.trans hqueue)
      have heq : w.perform (.handOver onMain place) =
          { w with
            frontend := { w.frontend with queues := [{ q with waiting := q.waiting ++ [i] }] }
            carried := w.carried.eraseIdx place } := by
        simp only [perform, hp, does, dispatch, hafter, hq, List.set_cons_zero]
      rw [heq]
      exact .handedOver hp hq
    · simp [hsent] at hnone

/-- What is to be run at once is run, if it is there. -/
theorem turn_call (h : w.InOrder machine) (onMain : Bool) (place : Nat) :
    w.Turn (w.happening? (.call onMain place)) (w.perform (.call onMain place)) := by
  cases hi : w.called[place]? with
  | none =>
    simp only [happening?, perform, hi]
    exact .aside _ rfl rfl rfl rfl rfl rfl
  | some i =>
    obtain ⟨r, m, events, notices, hr, hm, hafter⟩ :=
      -- The place tells which invocation it is, and the order that its handler is a command.
      h.after_run (h.called i (List.mem_of_getElem? hi)) onMain
    simp only [happening?, perform, hi, does, hafter]
    exact .ran hi hr hm events notices

/-- What is taken out of the queue is what has waited longest, if anything waits. -/
theorem turn_take (h : w.InOrder machine) (queue : Nat) :
    w.Turn none (w.perform (.take queue)) := by
  obtain ⟨q, hq, -⟩ := h.queue
  cases hp : w.frontend.queues[queue]?.bind (·.receive?) with
  | none =>
    simp only [perform, hp]
    exact .aside _ rfl rfl rfl rfl rfl rfl
  | some p =>
    obtain ⟨i, q'⟩ := p
    obtain ⟨q₀, hq₀, hreceive⟩ := Option.bind_eq_some_iff.1 hp
    obtain ⟨rest, hw, rfl⟩ := UiQueue.receive?_eq_some_iff.1 hreceive
    -- There is no queue but the first.
    obtain ⟨rfl, rfl⟩ : queue = 0 ∧ q₀ = q := by
      rw [hq, List.getElem?_singleton] at hq₀
      split_ifs at hq₀ with hzero
      exact ⟨hzero, (Option.some.inj hq₀).symm⟩
    have htaken : takenOut w.frontend 0 i { q₀ with waiting := rest } =
        { w.frontend with
          queues := [{ q₀ with waiting := rest }]
          notices := w.frontend.notices.push (.uiRunning i.action) } := by
      show ({ w.frontend with queues := w.frontend.queues.set 0 _, notices := _ } : Frontend T) = _
      rw [hq, List.set_cons_zero]
    simp only [perform, hp, htaken]
    exact .taken hq hw _

/-- What was taken out is run, if it is there. -/
theorem turn_runTaken (h : w.InOrder machine) (place : Nat) :
    w.Turn (w.happening? (.runTaken place)) (w.perform (.runTaken place)) := by
  cases hi : w.taken[place]? with
  | none =>
    simp only [happening?, perform, hi]
    exact .aside _ rfl rfl rfl rfl rfl rfl
  | some i =>
    obtain ⟨r, m, events, notices, hr, hm, hafter⟩ :=
      h.after_run (h.taken i (List.mem_of_getElem? hi)) true
    simp only [happening?, perform, hi, does, hafter]
    exact .executed hi hr hm events notices

/-- What a move does in a workplace in order is one of the turns. -/
theorem turn (h : w.InOrder machine) (x : Move) : w.Turn (w.happening? x) (w.perform x) := by
  cases x with
  | request a => exact h.turn_request a
  | requestByName name =>
    simp only [perform]
    cases Action.parse name with
    | ok a => exact h.turn_request a
    | error e =>
      dsimp only
      split_ifs
      · exact .aside _ rfl rfl rfl rfl rfl rfl
      · exact .aside _ rfl rfl rfl rfl rfl rfl
  | handOver onMain place => exact h.turn_handOver onMain place
  | call onMain place => exact h.turn_call onMain place
  | take queue => exact h.turn_take queue
  | runTaken place => exact h.turn_runTaken place
  | leave place outcome =>
    cases hrequest : w.frontend.dialogs[place]? with
    | none =>
      simp only [happening?, perform, hrequest]
      exact .aside _ rfl rfl rfl rfl rfl rfl
    | some request =>
      obtain ⟨events, notices, hafter⟩ := after_leave (f := { w.frontend with
        dialogs := w.frontend.dialogs.eraseIdx place }) request outcome
      simp only [happening?, perform, hrequest, does, hafter]
      exact .left hrequest events notices
  | finish place =>
    cases hrequest : w.closing[place]? with
    | none =>
      simp only [happening?, perform, hrequest]
      exact .aside _ rfl rfl rfl rfl rfl rfl
    | some request =>
      -- The dialog was asked for by an invocation of this registry, so its finish is no one else's.
      obtain ⟨r, hr, hf⟩ := h.registry
      have hasked := h.closing request (List.mem_of_getElem? hrequest)
      obtain ⟨notices, hafter⟩ := after_finish hr (hf.id.trans hasked.issued.registry.symm)
      simp only [happening?, perform, hrequest, does, hafter]
      exact .finished hrequest hr notices
  | sleep ms => exact .aside _ rfl rfl rfl rfl rfl rfl

/-! ## What stays -/

/-- Every turn leaves the workplace in order. -/
theorem of_turn {x : Option Happening} {w' : Workplace T} (h : w.InOrder machine)
    (ht : w.Turn x w') : w'.InOrder machine := by
  obtain ⟨r, hr, hf⟩ := h.registry
  cases ht with
  | aside f hsetup hregistry hcontrol hhost hqueues hdialogs =>
    exact { h with
      registry := ⟨r, hregistry.trans hr, hf⟩
      host := hhost.trans h.host
      queue := by rw [hqueues]; exact h.queue
      waiting := by rw [Frontend.waiting, hqueues]; exact h.waiting
      dialogs := by rw [hdialogs]; exact h.dialogs }
  | called hr' hv notices =>
    obtain rfl := Option.some.inj (hr.symm.trans hr')
    obtain ⟨-, hissued, -⟩ := hf.issued hv
    exact { h with
      registry := ⟨_, rfl, hf.trigger _ _⟩
      called := List.forall_mem_append.2 ⟨h.called, List.forall_mem_singleton.2 hissued⟩ }
  | carried hr' hv notices =>
    obtain rfl := Option.some.inj (hr.symm.trans hr')
    obtain ⟨-, hissued, hroute⟩ := hf.issued hv
    exact { h with
      registry := ⟨_, rfl, hf.trigger _ _⟩
      carried := List.forall_mem_append.2
        ⟨h.carried, List.forall_mem_singleton.2 ⟨hroute _ rfl, hissued⟩⟩ }
  | handedOver hi hq =>
    obtain ⟨q', hq', hopen⟩ := h.queue
    obtain rfl := List.singleton_inj.1 (hq.symm.trans hq')
    have hwaiting := h.waiting
    -- What waits afterwards is what did before, and what was carried.
    rw [waiting_of_queues hq] at hwaiting
    have hissued := (h.carried _ (List.mem_of_getElem? hi)).2
    exact { h with
      queue := ⟨_, rfl, hopen⟩
      carried := fun p hp => h.carried p (List.mem_of_mem_eraseIdx hp)
      waiting := List.forall_mem_append.2 ⟨hwaiting, List.forall_mem_singleton.2 hissued⟩ }
  | ran hi hr' hm events notices =>
    obtain rfl := Option.some.inj (hr.symm.trans hr')
    have hissued := h.called _ (List.mem_of_getElem? hi)
    exact { h with
      registry := ⟨_, rfl, hf.run_command _ _⟩
      called := fun i hi => h.called i (List.mem_of_mem_eraseIdx hi)
      dialogs := List.forall_mem_append.2 ⟨h.dialogs, fun request hrequest =>
        (hissued.asked hm (Option.mem_toList.1 hrequest)).2.2⟩ }
  | taken hq hw notices =>
    obtain ⟨q', hq', hopen⟩ := h.queue
    obtain rfl := List.singleton_inj.1 (hq.symm.trans hq')
    have hwaiting := h.waiting
    rw [waiting_of_queues hq, hw] at hwaiting
    obtain ⟨hfirst, hrest⟩ := List.forall_mem_cons.1 hwaiting
    exact { h with
      queue := ⟨_, rfl, hopen⟩
      waiting := hrest
      taken := List.forall_mem_append.2 ⟨h.taken, List.forall_mem_singleton.2 hfirst⟩ }
  | executed hi hr' hm events notices =>
    obtain rfl := Option.some.inj (hr.symm.trans hr')
    have hissued := h.taken _ (List.mem_of_getElem? hi)
    exact { h with
      registry := ⟨_, rfl, hf.run_command _ _⟩
      taken := fun i hi => h.taken i (List.mem_of_mem_eraseIdx hi)
      dialogs := List.forall_mem_append.2 ⟨h.dialogs, fun request hrequest =>
        (hissued.asked hm (Option.mem_toList.1 hrequest)).2.2⟩ }
  | left hrequest events notices =>
    have hasked := h.dialogs _ (List.mem_of_getElem? hrequest)
    exact { h with
      dialogs := fun request hr => h.dialogs request (List.mem_of_mem_eraseIdx hr)
      closing := List.forall_mem_append.2 ⟨h.closing, List.forall_mem_singleton.2 hasked⟩ }
  | finished hrequest hr' notices =>
    obtain rfl := Option.some.inj (hr.symm.trans hr')
    exact { h with
      registry := ⟨_, rfl, hf.finishInvocation _⟩
      closing := fun request hr => h.closing request (List.mem_of_mem_eraseIdx hr) }

/-- A move leaves a workplace in order. -/
theorem perform (h : w.InOrder machine) (x : Move) : (w.perform x).InOrder machine :=
  h.of_turn (h.turn x)

/-- Moves leave a workplace in order. -/
theorem run (h : w.InOrder machine) (moves : List Move) : (w.run moves).InOrder machine := by
  induction moves generalizing w with
  | nil => exact h
  | cons x moves ih => exact ih (h.perform x)

end InOrder

/-! ## The beginning -/

/-- A frontend with a new registry and a queue to which its dispatcher leads. -/
def linked (capacity : Nat) (setup : Setup) : Frontend T :=
  (Frontend.start capacity setup).play [.newQueue, .setDispatcher (.queue 0)]

/-- A frontend with a new registry that was filled for a machine, and a queue to the UI thread. -/
def furnished (capacity : Nat) (machine : Machine) (setup : Setup) : Frontend T :=
  (linked capacity setup).play [.registerAll machine]

/-- The steps by which its registry came to be. -/
def furnishing (machine : Machine) : List (Registry.Step (Handler T) Dispatcher) :=
  .setDispatcher (.queue 0) :: Domain.all.map fun d =>
    .register ((domainMappings d).filter (·.action.isSupportedBy machine))

/-- The frontend is linked, its registry was filled, and there are notices of that. -/
theorem furnished_eq (capacity : Nat) (machine : Machine) (setup : Setup) :
    ∃ notices, (furnished capacity machine setup : Frontend T) =
      { (linked capacity setup : Frontend T) with
        registry := some ((Registry.new 0 capacity).run (furnishing machine))
        notices := notices } := by
  -- The beginning of a session is the registration and nothing else, whatever frontend it is of.
  have hfill : ∀ f : Frontend T, f.play [.registerAll machine] = (registerAll machine).after f := by
    intro f
    simp only [Frontend.play, List.foldl_cons, List.foldl_nil, Frontend.Act.run, after_bind,
      after_pure]
  obtain ⟨notices, hafter⟩ := after_registerAll (T := T) (f := linked capacity setup) rfl machine
  exact ⟨notices, (hfill _).trans hafter⟩

/-- Adding the mappings of subsystems changes neither what a registry is known by nor its dispatcher,
its dialog slot and its epoch. -/
theorem run_register_frame (machine : Machine) (r : Registry (Handler T) Dispatcher)
    (ds : List Domain) :
    let r' := r.run (ds.map fun d =>
      .register ((domainMappings d).filter (·.action.isSupportedBy machine)))
    r'.id = r.id ∧ r'.dispatcher = r.dispatcher ∧ r'.dialogOwner = r.dialogOwner ∧
      r'.epoch = r.epoch := by
  induction ds generalizing r with
  | nil => exact ⟨rfl, rfl, rfl, rfl⟩
  | cons d ds ih =>
    -- No mapping that is added touches these four, so it is induction on the subsystems.
    obtain ⟨hid, hdispatcher, howner, hepoch⟩ := Registry.enrolWhere_frame r (fun _ => true)
      ((domainMappings d).filter (·.action.isSupportedBy machine))
    obtain ⟨hid', hdispatcher', howner', hepoch'⟩ := ih (r.perform (.register
      ((domainMappings d).filter (·.action.isSupportedBy machine))))
    exact ⟨hid'.trans hid, hdispatcher'.trans hdispatcher, howner'.trans howner,
      hepoch'.trans hepoch⟩

/-- The registry of the beginning is furnished. -/
theorem furnished_furnishing (capacity : Nat) (machine : Machine) :
    ((Registry.new 0 capacity).run (furnishing machine) :
      Registry (Handler T) Dispatcher).Furnished machine := by
  obtain ⟨hid, hdispatcher, -, hepoch⟩ := run_register_frame machine
    ((Registry.new 0 capacity).perform (.setDispatcher (.queue 0))) Domain.all
  refine ⟨hid, hepoch, hdispatcher, capacity, furnishing machine, rfl, ?_⟩
  simp [Registry.offered, furnishing, Domain.all, Registry.Step.onOffer, Domain.commands]

/-- In the beginning everything is in order. -/
theorem inOrder_furnished (capacity : Nat) (machine : Machine) (setup : Setup) :
    ({ frontend := furnished capacity machine setup } : Workplace T).InOrder machine := by
  obtain ⟨notices, heq⟩ := furnished_eq (T := T) capacity machine setup
  rw [heq]
  exact {
    registry := ⟨_, rfl, furnished_furnishing capacity machine⟩
    host := rfl
    queue := ⟨_, rfl, rfl⟩
    carried := List.forall_mem_nil _
    waiting := List.forall_mem_nil _
    taken := List.forall_mem_nil _
    called := List.forall_mem_nil _
    dialogs := List.forall_mem_nil _
    closing := List.forall_mem_nil _ }

end Workplace

end Switchboard
