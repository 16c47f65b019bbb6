import Switchboard.Proofs.Frontend.Calls
import Switchboard.Proofs.Frontend.Names
import Switchboard.Proofs.Frontend.Subsystems

/-!
# A frontend at rest

One client alone asks for one thing after the other. Between two of its requests no handler is
running, so no reset is busy; and as long as only the subsystems' mappings are offered, nothing that
waits in a queue or was put aside is a reset, for resets are run where they are requested. A frontend
in this state is at rest. `Calm` says that something leaves it at rest and resets nothing, and that is
so of all that a frontend may be asked to do except for the requests of resets: of dialogs, whatever
the host does with them and however they are closed, of drains, and of releases that come too early.
-/

namespace Switchboard

/-! ## Resets that were counted -/

/-- How often the machine or a drive was reset as an action does. -/
def Control.resetCount (c : Control) : Action → Nat
  | .resetSoft => c.resets .soft
  | .resetHard => c.resets .hard
  | .driveReset8 => c.driveResetCount 8
  | .driveReset9 => c.driveResetCount 9
  | .driveReset10 => c.driveResetCount 10
  | .driveReset11 => c.driveResetCount 11
  | _ => 0

/-- To attach an image resets nothing. -/
theorem Control.resetCount_attachDisk (c : Control) (unit : UInt8) (image : String) :
    (c.attachDisk unit image).resetCount = c.resetCount := by
  unfold attachDisk
  cases driveIndex? unit <;> rfl

/-- A command that does not finish its invocation resets nothing. -/
theorem Command.resetCount_effect {x : Command} (hx : x.finishes = false) (logged : Level → Bool)
    (c : Control) : (x.effect logged c).resetCount = c.resetCount := by
  cases x with
  | resetDrive unit => contradiction
  | reset kind => contradiction
  | advanceFrame | toggleWarp | togglePause =>
    simp only [effect]
    split_ifs <;> rfl
  | _ => rfl

/-- No dialog resets anything. -/
theorem OnAccept.resetCount_effect (x : OnAccept) (outcome : DialogOutcome) (c : Control) :
    (x.effect outcome c).resetCount = c.resetCount := by
  fun_cases OnAccept.effect x outcome c with
  | case1 unit image => exact c.resetCount_attachDisk unit image
  | _ => rfl

/-! ## Handlers that finish nothing -/

/-- A handler is a command that leaves its invocation unfinished. -/
def Handler.IsQuiet {T : Type} (h : Handler T) : Prop :=
  ∃ c, h = .command c ∧ c.finishes = false

/-- A quiet handler does not finish its invocation. -/
theorem Handler.IsQuiet.finishesItself {T : Type} {h : Handler T} (hh : h.IsQuiet) :
    h.finishesItself = false := by
  obtain ⟨c, rfl, hc⟩ := hh
  exact hc

/-- What the subsystems contribute besides the resets finishes nothing. -/
theorem Mapping.IsContributed.isQuiet {T : Type} {m : Mapping (Handler T)} (h : m.IsContributed)
    (ha : m.action ∉ Action.resets) : m.handler.IsQuiet := by
  obtain ⟨m', hm', rfl⟩ := h.exists_command
  exact ⟨m'.handler, rfl, Bool.eq_false_iff.2 fun hc => ha ((Domain.finishes_iff m' hm').1 hc)⟩

/-- What the subsystems contribute for a machine they contribute. -/
theorem Domain.isContributed_of_mem_commands {T : Type} {machine : Machine}
    {m : Mapping (Handler T)} (hm : m ∈ commands machine) : m.IsContributed := by
  obtain ⟨d, hd, hmem⟩ := List.mem_flatMap.1 hm
  exact ⟨d, hd, (List.mem_filter.1 hmem).1⟩

/-! ## Registries at rest -/

/-- A registry has the subsystems' mappings alone, and no reset is busy in it. -/
structure Registry.AtRest {T : Type} (r : Registry (Handler T) Dispatcher) : Prop where
  /-- With no handler running every busy reset is attended to, so there is none. -/
  attended : Calls.Attended { registry := r }
  /-- What is bound was contributed. -/
  bound : r.BindsOnly Mapping.IsContributed

namespace Registry.AtRest

variable {T : Type} {r : Registry (Handler T) Dispatcher}

/-- A step that runs no handler at once leaves a registry at rest. -/
theorem step (h : r.AtRest) {x : Registry.Step (Handler T) Dispatcher}
    (hoffer : ∀ ms, x = .register ms → ∀ m ∈ ms, m.IsContributed) (hcall : r.called? x = none) :
    (r.perform x).AtRest where
  attended := by
    have hstep := h.attended.step fun ms hms m hm => (hoffer ms hms m hm).resetsFinish
    simp only [Calls.perform, hcall, Option.toList_none, List.append_nil] at hstep
    exact hstep
  bound := h.bound.perform h.attended.wellFormed hoffer

/-- A request leaves it at rest if the handler is run at once and does nothing but to finish its
invocation if it is one that does. -/
theorem call (h : r.AtRest) {a : Action} {now : Nat} {i : Invocation (Handler T)}
    (hi : r.called? (.trigger a now) = some i) :
    (if i.handler.finishesItself then (r.perform (.trigger a now)).perform (.finishInvocation i)
      else r.perform (.trigger a now)).AtRest where
  attended := h.attended.call (by simp) hi
  bound := by
    have hwell := h.attended.wellFormed
    have htriggered := h.bound.perform hwell (s := .trigger a now) (by simp)
    split_ifs
    · exact htriggered.perform (hwell.perform _) (by simp)
    · exact htriggered

/-- What is issued for anything but a reset finishes nothing. -/
theorem isQuiet_issue (h : r.AtRest) {a : Action} (ha : a ∉ Action.resets) {e : Entry (Handler T)}
    (he : r.lookup? a = some e) : (r.issue e).handler.IsQuiet :=
  (h.bound a e he).isQuiet ha

end Registry.AtRest

namespace Frontend

open FrontendM

variable {T α β : Type} {f g : Frontend T}

/-- The registry of a frontend is at rest, and nothing that is to be run yet is a reset. -/
structure AtRest (f : Frontend T) : Prop where
  /-- There is a registry, and it is at rest. -/
  registry : ∃ r, f.registry = some r ∧ r.AtRest
  /-- What waits in a queue finishes nothing. -/
  waiting : ∀ queue ∈ f.queues, ∀ i ∈ queue.waiting, i.handler.IsQuiet
  /-- What was put aside finishes nothing. -/
  parked : ∀ i ∈ f.parked, i.handler.IsQuiet

/-- From a frontend at rest one has come to another without a reset. -/
def Calm (f g : Frontend T) : Prop :=
  f.AtRest → g.AtRest ∧ g.control.resetCount = f.control.resetCount

/-- Nothing has happened, so nothing was reset. -/
theorem Calm.refl (f : Frontend T) : f.Calm f := fun h => ⟨h, rfl⟩

/-- Calm can be chained. -/
theorem Calm.trans {k : Frontend T} (h : f.Calm g) (h' : g.Calm k) : f.Calm k := by
  intro hf
  obtain ⟨hg, hcount⟩ := h hf
  obtain ⟨hk, hcount'⟩ := h' hg
  exact ⟨hk, hcount'.trans hcount⟩

/-- What is no part of the registry, of what is to be run and of the counts does not matter. -/
theorem Calm.of_eq (hr : g.registry = f.registry) (hq : g.queues = f.queues)
    (hp : g.parked = f.parked) (hc : g.control.resetCount = f.control.resetCount) : f.Calm g := by
  intro h
  exact ⟨⟨by rw [hr]; exact h.registry, by rw [hq]; exact h.waiting, by rw [hp]; exact h.parked⟩, hc⟩

/-- A step of the registry matters only for what it offers and calls. -/
theorem Calm.step {r : Registry (Handler T) Dispatcher} {x : Registry.Step (Handler T) Dispatcher}
    (hr : f.registry = some r) (hoffer : ∀ ms, x = .register ms → ∀ m ∈ ms, m.IsContributed)
    (hcall : r.called? x = none) (notices : Array Notice) :
    f.Calm { f with registry := some (r.perform x), notices := notices } := by
  intro h
  obtain ⟨r', hr', hrest⟩ := h.registry
  obtain rfl := Option.some.inj (hr.symm.trans hr')
  exact ⟨⟨⟨_, rfl, hrest.step hoffer hcall⟩, h.waiting, h.parked⟩, rfl⟩

/-- One computation after another is calm if both are. -/
theorem calm_bind {m : FrontendM T α} {k : α → FrontendM T β} (hm : Keeps Calm m)
    (hk : ∀ x, Keeps Calm (k x)) : Keeps Calm (m >>= k) :=
  fun f => (hm f).trans (hk _ _)

/-- To give a value is calm. -/
theorem calm_pure (x : α) : Keeps Calm (pure x : FrontendM T α) := Calm.refl

/-- A notice is calm. -/
theorem calm_notify (n : Notice) : Keeps Calm (notify n : FrontendM T Unit) :=
  fun _ => .of_eq rfl rfl rfl rfl

/-- Using the registry is calm if it is a step that neither requests nor offers anything. -/
theorem calm_use? {use : Registry (Handler T) Dispatcher → α × Registry (Handler T) Dispatcher}
    (huse : ∀ r : Registry (Handler T) Dispatcher, ∃ x, (use r).2 = r.perform x ∧
      (∀ ms, x ≠ .register ms) ∧ r.called? x = none) : Keeps Calm (use? use) := by
  intro f
  cases hr : f.registry with
  | none =>
    rw [(after_useRegistry?_none use hr).1]
    exact .refl f
  | some r =>
    obtain ⟨x, hstep, hoffer, hcall⟩ := huse r
    rw [(after_useRegistry?_some use hr).1, hstep]
    exact .step hr (fun ms hms => absurd hms (hoffer ms)) hcall _

/-! ## What is done with a registry -/

/-- To finish an action is calm, also one that is running. -/
theorem calm_finishAction (a : Action) : Keeps Calm (finishAction a : FrontendM T Unit) := by
  refine calm_bind (calm_use? fun r => ⟨.finish a, rfl, by simp, rfl⟩) fun released => ?_
  cases released with
  | none => exact calm_pure ()
  | some released => exact calm_notify _

/-- To finish an invocation is calm, also one that the registry did not issue. -/
theorem calm_finish (i : Invocation (Handler T)) : Keeps Calm (finish i) := by
  intro f
  by_cases hissued : ∃ r, f.registry = some r ∧ r.id = i.registry
  · obtain ⟨r, hr, hid⟩ := hissued
    obtain ⟨notices, hafter⟩ := after_finish hr hid
    rw [hafter]
    exact .step hr (by simp) rfl notices
  · rw [after_finish_of_orphan fun r hr hid => hissued ⟨r, hr, hid⟩]
    exact .of_eq rfl rfl rfl rfl

/-- Offering what the subsystems contribute is calm. -/
theorem calm_register {ms : List (Mapping (Handler T))} (hms : ∀ m ∈ ms, m.IsContributed) :
    Keeps Calm (register ms) := by
  intro f h
  obtain ⟨r, hr, -⟩ := h.registry
  obtain ⟨notices, hafter⟩ := after_registerFor hr none ms
  rw [register, hafter]
  refine Calm.step hr ?_ rfl notices h
  -- The registry offers them itself, so nothing but what the subsystems contribute is bound then.
  rintro _ ⟨⟩ m hm
  exact hms m (List.mem_of_mem_filter hm)

/-- The registration of all subsystems is calm. -/
theorem calm_registerAll (machine : Machine) :
    Keeps Calm (registerAll machine : FrontendM T Report) := by
  intro f h
  obtain ⟨r, hr, -⟩ := h.registry
  obtain ⟨-, notices, hafter⟩ := registerAll_eq_register hr machine
  rw [hafter]
  refine Calm.step (x := .register (Domain.commands machine)) hr ?_ rfl notices h
  rintro _ ⟨⟩ m hm
  exact Domain.isContributed_of_mem_commands hm

/-- A shutdown is calm. -/
theorem calm_shutdown : Keeps Calm (shutdown : FrontendM T Unit) := by
  refine calm_bind (calm_use? fun r => ⟨.shutdown, rfl, by simp, rfl⟩) fun released => ?_
  cases released with
  | none => exact calm_pure ()
  | some released => exact calm_notify _

/-- A restart is calm, also with a warning before it. -/
theorem calm_restart : Keeps Calm (restart : FrontendM T Unit) := by
  refine calm_bind (fun f => .refl f) fun populated => ?_
  cases populated with
  | none => exact calm_pure ()
  | some populated =>
    cases populated with
    | true => exact calm_bind (calm_notify _) fun _ => calm_shutdown
    | false => exact calm_shutdown

/-- A dispatcher may be exchanged at any time. -/
theorem calm_setDispatcher (d : Dispatcher) : Keeps Calm (setDispatcher d : FrontendM T Unit) := by
  refine calm_bind (calm_use? fun r => ⟨.setDispatcher d, rfl, by simp, rfl⟩) fun replaced => ?_
  cases replaced with
  | none => exact calm_pure ()
  | some replaced => exact calm_notify _

/-! ## Dialogs and commands -/

/-- A dialog that closes is calm, whatever becomes of it. -/
theorem calm_close (request : DialogRequest (Handler T)) (outcome : DialogOutcome) :
    Keeps Calm (close request outcome) := by
  intro f
  obtain ⟨events, notices, hafter⟩ := after_leave (f := f) request outcome
  have hleft : f.Calm ((leave request outcome).after f) := by
    rw [hafter]
    exact .of_eq rfl rfl rfl (request.onAccept.resetCount_effect outcome f.control)
  rw [after_close]
  exact hleft.trans (calm_finish _ _)

/-- A dialog is opened, and closed at once if the host answers. -/
theorem calm_openDialog (request : DialogRequest (Handler T)) :
    Keeps Calm (openDialog request) := by
  refine calm_bind (fun f => .of_eq rfl rfl rfl rfl) fun _ f => ?_
  rw [after_bind, after_get, result_get]
  cases f.host with
  | hold => exact .of_eq rfl rfl rfl rfl
  | answer outcome => exact calm_close request outcome f

/-- A change that comes with the wording of a notice is calm if it resets nothing. -/
theorem calm_changeNoticing (change : Control → Control)
    (hchange : ∀ c, (change c).resetCount = c.resetCount) (told : Control → Notice) :
    Keeps Calm (changeNoticing change told : FrontendM T Unit) := by
  intro f
  obtain ⟨notices, hafter⟩ := after_changeNoticing (f := f) change told
  rw [hafter]
  refine .of_eq rfl rfl rfl ?_
  show (if f.setup.logged .info then change f.control else f.control).resetCount = _
  cases f.setup.logged .info with
  | false => rfl
  | true => exact hchange f.control

/-- A handler that finishes nothing is calm. -/
theorem calm_runInvocation (onMain : Bool) {i : Invocation (Handler T)} (hi : i.handler.IsQuiet) :
    Keeps Calm (runInvocation onMain i) := by
  obtain ⟨c, hhandler, hc⟩ := hi
  rw [runInvocation_command hhandler]
  have hcount := Command.resetCount_effect hc
  intro f
  -- The two resets finish their invocations, and the two toggles change nothing if their notices
  -- are not shown.
  cases c with
  | resetDrive unit => contradiction
  | reset kind => contradiction
  | openDialog kind onAccept => exact calm_openDialog _ f
  | toggleWarp => exact calm_changeNoticing (·.toggleWarp) (fun _ => rfl) _ f
  | togglePause => exact calm_changeNoticing (·.togglePause) (fun _ => rfl) _ f
  | _ => exact .of_eq rfl rfl rfl (hcount f.setup.logged f.control)

/-! ## Requests for anything but a reset -/

/-- Only what finishes nothing is put aside. -/
theorem calm_park {i : Invocation (Handler T)} (hi : i.handler.IsQuiet) : Keeps Calm (park i) := by
  intro f h
  have hparked : ∀ j ∈ f.parked ++ [i], j.handler.IsQuiet :=
    List.forall_mem_append.2 ⟨h.parked, List.forall_mem_singleton.2 hi⟩
  exact ⟨⟨h.registry, h.waiting, hparked⟩, rfl⟩

/-- Queues may change if what waits in them then finishes nothing. -/
theorem Calm.queues {qs : List (UiQueue (Invocation (Handler T)))}
    (hqs : f.AtRest → ∀ queue ∈ qs, ∀ i ∈ queue.waiting, i.handler.IsQuiet) :
    f.Calm { f with queues := qs } :=
  fun h => ⟨⟨h.registry, hqs h, h.parked⟩, rfl⟩

/-- A queue may be replaced by one in which all that waits finishes nothing. -/
theorem Calm.set {q : Nat} {queue : UiQueue (Invocation (Handler T))}
    (hqueue : f.AtRest → ∀ i ∈ queue.waiting, i.handler.IsQuiet) :
    f.Calm { f with queues := f.queues.set q queue } := by
  refine .queues fun h queue' hmem => ?_
  rcases List.mem_or_eq_of_mem_set hmem with hmem | rfl
  · exact h.waiting queue' hmem
  · exact hqueue h

/-- What is sent waits in a queue, or comes back and is finished. -/
theorem calm_send (q : Nat) {i : Invocation (Handler T)} (hi : i.handler.IsQuiet) :
    Keeps Calm (send q i) := by
  intro f
  rcases after_send q i f with ⟨queue, hsent, heq⟩ | ⟨-, heq⟩
  · obtain ⟨old, hold, hsend⟩ := Option.bind_eq_some_iff.1 hsent
    obtain ⟨-, rfl⟩ := UiQueue.send?_eq_some_iff.1 hsend
    rw [heq]
    exact .set fun h => List.forall_mem_append.2
      ⟨h.waiting old (List.mem_of_getElem? hold), List.forall_mem_singleton.2 hi⟩
  · rw [heq]
    exact (calm_notify _ f).trans (calm_finish i _)

/-- Every dispatcher is calm with what finishes nothing. -/
theorem calm_dispatch (onMain : Bool) {i : Invocation (Handler T)} (hi : i.handler.IsQuiet)
    (d : Dispatcher) : Keeps Calm (dispatch (runInvocation onMain) i d) := by
  cases d with
  | queue q => exact calm_send q hi
  | park => exact calm_park hi
  | runNow => exact calm_runInvocation onMain hi
  | release => exact calm_finish i
  | discard => exact calm_pure ()

/-- A request for anything but a reset is calm, whether it is run at once, handed over or dropped. -/
theorem calm_trigger? (onMain : Bool) {a : Action} (ha : a ∉ Action.resets) :
    Keeps Calm (trigger? onMain a : FrontendM T (Option Outcome)) := by
  intro f h
  obtain ⟨r, hr, hrest⟩ := h.registry
  unfold trigger?
  rcases after_triggerWith (runInvocation onMain) a f with ⟨hnone, -⟩ | ⟨r', why, -, -, heq⟩ |
    ⟨r', i, route, hr', hv, heq⟩
  · rw [hr] at hnone
    contradiction
  · rw [heq]
    exact calm_notify _ f h
  · obtain rfl := Option.some.inj (hr.symm.trans hr')
    -- What is accepted is bound to the action, and so it was contributed for something that is no
    -- reset.
    have hquiet : i.handler.IsQuiet := by
      obtain ⟨e, he, -, rfl, -⟩ := Registry.judge_accepted_iff.1 (Prod.ext hv rfl)
      exact hrest.isQuiet_issue ha he
    -- Run at once it leaves its action running, as it is not the handler of a reset; else no
    -- handler is run yet.
    have hbegun : (r.perform (.trigger a f.now)).AtRest := by
      cases route with
      | none =>
        have hcall := hrest.call (a := a) (i := i) (by rw [Registry.called?, hv]; rfl)
        rwa [hquiet.finishesItself] at hcall
      | some d => exact hrest.step (by simp) (by rw [Registry.called?, hv]; rfl)
    have hf : f.Calm { f with registry := some (r.perform (.trigger a f.now)) } :=
      fun h => ⟨⟨⟨_, rfl, hbegun⟩, h.waiting, h.parked⟩, rfl⟩
    rw [heq]
    cases route with
    | none =>
      exact hf.trans (calm_bind (calm_notify _) (fun _ => calm_runInvocation onMain hquiet) _) h
    | some d =>
      exact hf.trans (calm_bind (calm_notify _) (fun _ => calm_dispatch onMain hquiet d) _) h

/-! ## Drains -/

/-- To run some of what waits is calm. -/
theorem calm_runHead (q n : Nat) : Keeps Calm (runHead q n : FrontendM T Unit) := by
  induction n with
  -- The induction is on how many are to be run: what waits behind the first is still at rest after
  -- its handler.
  | zero => exact calm_pure ()
  | succ n ih =>
    intro f h
    rcases after_runHead_succ q n f with ⟨-, heq⟩ | ⟨i, queue, rest, hq, hw, heq⟩
    · rw [heq]
      exact ih f h
    · have hwaiting := h.waiting queue (List.mem_of_getElem? hq)
      rw [hw] at hwaiting
      obtain ⟨hi, hrest⟩ := List.forall_mem_cons.1 hwaiting
      have htaken : f.Calm (takenOut f q i { queue with waiting := rest }) :=
        Calm.trans (.set fun _ => hrest) (calm_notify _ _)
      rw [heq]
      exact htaken.trans ((calm_runInvocation true hi _).trans (ih _)) h

/-- A drain is calm. -/
theorem calm_drain (q : Nat) : Keeps Calm (drain q : FrontendM T Nat) := by
  -- A drain goes on for rounds, each over what waits at its start.
  have hrounds : ∀ rounds, Keeps Calm (drainRounds q rounds : FrontendM T Nat) := by
    intro rounds
    induction rounds with
    | zero => exact calm_pure 0
    | succ rounds ih =>
      intro f
      by_cases hw : f.waiting q = []
      · rw [(after_drainRounds_of_empty hw _).1]
        exact .refl f
      · rw [(after_drainRounds_succ hw rounds).1]
        exact (calm_runHead q _ f).trans (ih _)
  exact fun f => hrounds _ f

/-! ## Sessions -/

/-- The mappings that are offered, other than those for a machine. -/
def Act.offered : Act T → List (Mapping (Handler T))
  | .register ms => ms
  | _ => []

/-- The action that is requested. -/
def Act.asked? : Act T → Option Action
  | .request _ a => some a
  | .requestByName _ name => Action.ofName? name
  | _ => none

/-- A request by name is calm if the name is not that of a reset. -/
theorem calm_triggerByName? (onMain : Bool) {name : String}
    (hname : ∀ a, Action.ofName? name = some a → a ∉ Action.resets) :
    Keeps Calm (triggerByName? onMain name : FrontendM T (Option Outcome)) := by
  unfold triggerByName?
  cases hparse : Action.parse name with
  | ok a =>
    refine calm_trigger? onMain (hname a ?_)
    rw [Action.ofName?_eq_some_iff]
    exact Action.parse_eq_ok_iff.1 hparse
  | error e =>
    refine calm_bind (fun f => .refl f) fun f => ?_
    cases f.registry.isNone with
    | true => exact calm_pure none
    | false => exact calm_bind (calm_notify _) fun _ => calm_pure _

/-- To close a dialog that is open is calm. -/
theorem calm_closeDialog? (place : Nat) (outcome : DialogOutcome) :
    Keeps Calm (closeDialog? place outcome : FrontendM T (Option DialogKind)) := by
  refine calm_bind (fun f => .refl f) fun f => ?_
  cases f.dialogs[place]? with
  | none => exact calm_pure none
  | some request =>
    exact calm_bind (fun f => .of_eq rfl rfl rfl rfl) fun _ =>
      calm_bind (calm_close request outcome) fun _ => calm_pure _

/-- To run what was put aside is calm. -/
theorem calm_runParked (onMain : Bool) (place : Nat) :
    Keeps Calm (withParked? place (runInvocation onMain) : FrontendM T (Option Unit)) := by
  intro f h
  rw [withParked?, after_bind, after_get, result_get]
  cases hp : f.parked[place]? with
  | none => exact Calm.refl f h
  | some i => exact calm_runInvocation onMain (h.parked i (List.mem_of_getElem? hp)) f h

/-- A queue may be changed if nothing new waits in it then. -/
theorem calm_changeQueue? (q : Nat)
    {change : UiQueue (Invocation (Handler T)) → UiQueue (Invocation (Handler T))}
    (hchange : ∀ queue, (change queue).waiting ⊆ queue.waiting) :
    Keeps Calm (changeQueue? q change) := by
  intro f
  refine .queues fun h queue hqueue i hi => ?_
  obtain ⟨old, hold, hwaits⟩ := UiQueue.waiting_of_mem_modify hchange hqueue
  exact h.waiting old hold i (hwaits hi)

/-- All that a frontend may be asked to do is calm, if only what the subsystems contribute is offered
and no reset is requested. -/
theorem calm_act {x : Act T} (hoffer : ∀ m ∈ x.offered, m.IsContributed)
    (hask : ∀ a, x.asked? = some a → a ∉ Action.resets) : Keeps Calm x.run := by
  cases x with
  | request onMain a => exact calm_bind (calm_trigger? onMain (hask a rfl)) fun _ => calm_pure ()
  | requestByName onMain name => exact calm_bind (calm_triggerByName? onMain hask) fun _ => calm_pure ()
  | finishAction a => exact calm_finishAction a
  | finish i => exact calm_finish i
  | closeDialog place outcome => exact calm_bind (calm_closeDialog? place outcome) fun _ => calm_pure ()
  | runParked onMain place => exact calm_bind (calm_runParked onMain place) fun _ => calm_pure ()
  | register ms => exact calm_bind (calm_register hoffer) fun _ => calm_pure ()
  | registerAll machine => exact calm_bind (calm_registerAll machine) fun _ => calm_pure ()
  | restart => exact calm_restart
  | shutdown => exact calm_shutdown
  | setDispatcher d =>
    cases d with
    | queue q =>
      refine calm_bind (fun f => ?_) fun _ => calm_pure ()
      rw [setQueueDispatcher?, after_bind, after_get, result_get]
      split
      · exact calm_bind (calm_setDispatcher _) (fun _ => calm_pure _) f
      · exact .refl f
    | _ => exact calm_setDispatcher _
  | newQueue =>
    exact fun f => .queues fun h => List.forall_mem_append.2
      ⟨h.waiting, List.forall_mem_singleton.2 (List.forall_mem_nil _)⟩
  | dropQueue q =>
    have hdrop : Keeps Calm (changeQueue? q (·.dropReceiver) : FrontendM T _) :=
      calm_changeQueue? q fun _ => List.nil_subset _
    exact calm_bind (calm_bind hdrop fun _ => calm_pure _) fun _ => calm_pure ()
  | dropSender q =>
    have hdrop : Keeps Calm (changeQueue? q (·.dropSender) : FrontendM T _) :=
      calm_changeQueue? q fun _ => List.Subset.refl _
    exact calm_bind (calm_bind hdrop fun _ => calm_pure _) fun _ => calm_pure ()
  | runPending q => exact Act.keeps_of_drain .refl (calm_drain q) (.inl rfl)
  | runTimeout q => exact Act.keeps_of_drain .refl (calm_drain q) (.inr (.inl rfl))
  | runBlocking q => exact Act.keeps_of_drain .refl (calm_drain q) (.inr (.inr rfl))
  | sleep ms => exact fun _ => .of_eq rfl rfl rfl rfl

end Frontend

end Switchboard
