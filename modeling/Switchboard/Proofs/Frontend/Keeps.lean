import Switchboard.Frontend.Session
import Switchboard.Proofs.Registry.Run

/-!
# What every computation of a frontend keeps

Handlers, dispatchers, dialogs and drains call one another. To show something of all of them it is
enough to show it of the few things that they do themselves to a frontend, if what is to be shown is
a relation between the frontend before and after that can be chained. `Frontend.Linked` says what has
to be shown for everything that neither runs nor keeps an invocation, `Frontend.Chained` and
`Frontend.Closed` what for all of it, and `Frontend.Closed.trigger?` says that requests keep the
relation then, whatever their handlers do.
-/

namespace Switchboard

/-- A step of a registry that requests nothing and leaves the dispatcher or takes it away. -/
def Registry.Step.isPlain {H D : Type} : Registry.Step H D → Bool
  | .register _ | .finish _ | .finishInvocation _ | .shutdown => true
  | .setDispatcher _ | .trigger .. => false

/-- Offering mappings through a filter is offering those that it lets pass. -/
theorem Registry.enrolWhere_eq_register {H D : Type} (r : Registry H D) (keep : Action → Bool)
    (ms : List (Mapping H)) :
    (r.enrolWhere keep ms).2 = r.perform (.register (ms.filter (keep ·.action))) := by
  induction ms generalizing r with
  | nil => rfl
  | cons m ms ih =>
    cases hk : keep m.action with
    | true =>
      have hfilter : (m :: ms).filter (keep ·.action) = m :: ms.filter (keep ·.action) :=
        List.filter_cons_of_pos hk
      rw [hfilter]
      show (Registry.enrolWhere keep (if keep m.action then r.enrol m else (.withheld, r)).2 ms).2 =
        (Registry.enrolWhere (fun _ => true) (r.enrol m).2 (ms.filter (keep ·.action))).2
      rw [if_pos hk]
      exact ih (r.enrol m).2
    | false =>
      have hfilter : (m :: ms).filter (keep ·.action) = ms.filter (keep ·.action) :=
        List.filter_cons_of_neg (by simp [hk])
      rw [hfilter]
      show (Registry.enrolWhere keep (if keep m.action then r.enrol m else (.withheld, r)).2 ms).2 = _
      rw [if_neg (by simp [hk])]
      exact ih r

/-- The frontend with more notices, and no other change. -/
def Frontend.noticing {T : Type} (f : Frontend T) (ns : List Notice) : Frontend T :=
  { f with notices := f.notices ++ ns.toArray }

/-- No notices change nothing. -/
@[simp] theorem Frontend.noticing_nil {T : Type} (f : Frontend T) : f.noticing [] = f := by
  simp [noticing]

/-- Notices given one after the other are given at once. -/
@[simp] theorem Frontend.noticing_noticing {T : Type} (f : Frontend T) (ns ms : List Notice) :
    (f.noticing ns).noticing ms = f.noticing (ns ++ ms) := by
  simp [noticing]

namespace FrontendM

variable {T α β : Type} {R : Frontend T → Frontend T → Prop}

/-- The frontend that a computation leaves. -/
def after (m : FrontendM T α) (f : Frontend T) : Frontend T := (m.run f).2

/-- What a computation gives. -/
def result (m : FrontendM T α) (f : Frontend T) : α := (m.run f).1

/-- A computation leads from any frontend to one that is related to it. -/
def Keeps (R : Frontend T → Frontend T → Prop) (m : FrontendM T α) : Prop := ∀ f, R f (m.after f)

/-- To give a value changes nothing. -/
@[simp] theorem after_pure (x : α) (f : Frontend T) : (pure x : FrontendM T α).after f = f := rfl

/-- What a composed computation leaves is what its second part leaves, started with what the first
part gives and leaves. -/
@[simp] theorem after_bind (m : FrontendM T α) (k : α → FrontendM T β) (f : Frontend T) :
    (m >>= k).after f = (k (m.result f)).after (m.after f) := rfl

/-- The value that is given is the result. -/
@[simp] theorem result_pure (x : α) (f : Frontend T) : (pure x : FrontendM T α).result f = x := rfl

/-- The result of a composed computation is that of its second part. -/
@[simp] theorem result_bind (m : FrontendM T α) (k : α → FrontendM T β) (f : Frontend T) :
    (m >>= k).result f = (k (m.result f)).result (m.after f) := rfl

/-- To look at the frontend changes nothing. -/
@[simp] theorem after_get (f : Frontend T) : (get : FrontendM T _).after f = f := rfl

/-- What is seen is the frontend. -/
@[simp] theorem result_get (f : Frontend T) : (get : FrontendM T _).result f = f := rfl

/-- Results can be changed without a change to the frontend. -/
@[simp] theorem after_map (g : α → β) (m : FrontendM T α) (f : Frontend T) :
    (g <$> m).after f = m.after f := rfl

/-- A modification leaves the modified frontend. -/
@[simp] theorem after_modify (change : Frontend T → Frontend T) (f : Frontend T) :
    (modify change : FrontendM T _).after f = change f := rfl

/-- Without a registry there is nothing to use, and nothing changes. -/
theorem after_useRegistry?_none
    (use : Registry (Handler T) Dispatcher → α × Registry (Handler T) Dispatcher) {f : Frontend T}
    (hr : f.registry = none) : (use? use).after f = f ∧ (use? use).result f = none := by
  simp [after, result, use?, StateT.run, modifyGet, MonadStateOf.modifyGet,
    StateT.modifyGet, hr, Pure.pure]

/-- If there is a registry, its use puts the registry that comes of it in its place. -/
theorem after_useRegistry?_some
    (use : Registry (Handler T) Dispatcher → α × Registry (Handler T) Dispatcher) {f : Frontend T}
    {r : Registry (Handler T) Dispatcher} (hr : f.registry = some r) :
    (use? use).after f = { f with registry := some (use r).2 } ∧
      (use? use).result f = some (use r).1 := by
  simp [after, result, use?, StateT.run, modifyGet, MonadStateOf.modifyGet,
    StateT.modifyGet, hr, Pure.pure]

/-- A notice is put behind those before. -/
theorem after_notify (n : Notice) (f : Frontend T) : (notify n).after f = f.noticing [n] := by
  show ({ f with notices := f.notices.push n } : Frontend T) = _
  rw [Array.push_eq_append]
  rfl

/-- To finish an invocation is a step of the registry that issued it, if that is there still. -/
theorem after_finish_of_issued {i : Invocation (Handler T)} {f : Frontend T}
    {r : Registry (Handler T) Dispatcher} (hr : f.registry = some r) (hid : r.id = i.registry) :
    (finish i).after f = { f with registry := some (r.finishInvocation i).2 }.noticing
      [(r.finishInvocation i).1.notice i.action] := by
  rw [← after_notify]
  simp [finish, hr, hid]

/-- If it is not there any more, that is noticed. -/
theorem after_finish_of_orphan {i : Invocation (Handler T)} {f : Frontend T}
    (h : ∀ r, f.registry = some r → r.id ≠ i.registry) :
    (finish i).after f = f.noticing [.orphanFinish i.action] := by
  rw [← after_notify]
  cases hr : f.registry with
  | none => simp [finish, hr]
  | some r => simp [finish, hr, h r hr]

/-- A loop that goes over a whole list and only notices things notices what its turns do. -/
theorem after_forIn_noticing {α : Type} {body : α → PUnit → FrontendM T (ForInStep PUnit)}
    (told : α → List Notice) (hgoesOn : ∀ x f, (body x .unit).result f = .yield .unit)
    (hbody : ∀ x f, (body x .unit).after f = f.noticing (told x)) (xs : List α) (f : Frontend T) :
    (forIn xs .unit body).after f = f.noticing (xs.flatMap told) := by
  -- The induction is on the list, over every frontend: a turn starts with the notices of those
  -- before it.
  induction xs generalizing f with
  | nil => exact f.noticing_nil.symm
  | cons x xs ih =>
    rw [List.forIn_cons, after_bind, hgoesOn, ih, hbody, Frontend.noticing_noticing,
      List.flatMap_cons]

/-- A script is recorded and counted, and then gone through if the limit was not reached. -/
theorem after_runNested_script {i : Invocation (Handler T)} {tag : T} {steps : List (ScriptStep T)}
    (hi : i.handler = .script tag steps) (depth : Nat) (onMain : Bool) (f : Frontend T) :
    (runNested (depth + 1) onMain i).after f =
      (if f.scriptRuns < f.setup.scriptLimit then steps.forM (step (runNested depth onMain) i)
        else pure ()).after
        { f with events := f.events.push (.run i.action i.flags tag onMain),
                 scriptRuns := f.scriptRuns + 1 } := by
  unfold runNested
  rw [hi]
  rfl

end FrontendM

/-- Whether an event tells that a script started. -/
def Event.isRun {T : Type} : Event T → Bool
  | .run .. => true
  | _ => false

/-- What was recorded of scripts that started, in order. -/
def Frontend.runs {T : Type} (f : Frontend T) : List (Event T) := f.events.toList.filter (·.isRun)

/-- What has to be shown of a relation for the computations to keep it that run no handler and put
nothing aside: it can be chained, it holds when nothing changes in the setup, in the registry, in the
queues, in what was put aside and in the scripts that were counted and recorded, and it holds when the
registry takes a plain step. -/
structure Frontend.Linked {T : Type} (R : Frontend T → Frontend T → Prop) : Prop where
  /-- It holds when nothing changes at all. -/
  refl : ∀ f, R f f
  /-- It can be chained. -/
  trans : ∀ {f g h}, R f g → R g h → R f h
  /-- It holds when only what is beside these parts changes. -/
  besides : ∀ {f g : Frontend T}, g.setup = f.setup → g.registry = f.registry →
    g.queues = f.queues → g.scriptRuns = f.scriptRuns → g.parked = f.parked → g.runs = f.runs → R f g
  /-- It holds when the registry takes a plain step. -/
  registry : ∀ {f : Frontend T} {r} {x : Registry.Step (Handler T) Dispatcher},
    f.registry = some r → x.isPlain = true → R f { f with registry := some (r.perform x) }

/-- What has to be shown of a relation for all computations to keep it: it holds besides when
anything is put aside or recorded. -/
structure Frontend.Chained {T : Type} (R : Frontend T → Frontend T → Prop) : Prop
    extends Frontend.Linked R where
  /-- It holds when only what is beside the setup, the registry, the queues and the count of scripts
  changes. -/
  aside : ∀ {f g : Frontend T}, g.setup = f.setup → g.registry = f.registry → g.queues = f.queues →
    g.scriptRuns = f.scriptRuns → R f g
  besides := fun hset hr hq hs _ _ => aside hset hr hq hs

namespace Frontend.Linked

open FrontendM

variable {T α β : Type} {R : Frontend T → Frontend T → Prop}

/-- To give a value keeps the relation. -/
theorem pure (h : Linked R) (x : α) : Keeps R (pure x : FrontendM T α) := fun f => h.refl f

/-- One computation after another keeps the relation if both do. -/
theorem bind (h : Linked R) {m : FrontendM T α} {k : α → FrontendM T β} (hm : Keeps R m)
    (hk : ∀ x, Keeps R (k x)) : Keeps R (m >>= k) :=
  fun f => h.trans (hm f) (hk _ _)

/-- A loop keeps the relation if each turn does, whether it goes on or stops. -/
theorem forIn (h : Linked R) {xs : List α} {init : β} {body : α → β → FrontendM T (ForInStep β)}
    (hbody : ∀ x acc, Keeps R (body x acc)) : Keeps R (ForIn.forIn xs init body) := by
  induction xs generalizing init with
  | nil => exact h.pure init
  | cons x xs ih =>
    rw [List.forIn_cons]
    refine h.bind (hbody x init) fun next => ?_
    cases next with
    | done acc => exact h.pure acc
    | yield acc => exact ih

/-- To do the same for every member of a list keeps the relation if each time does. -/
theorem forM (h : Linked R) {xs : List α} {body : α → FrontendM T PUnit}
    (hbody : ∀ x, Keeps R (body x)) : Keeps R (xs.forM body) := by
  induction xs with
  | nil => exact h.pure _
  | cons x xs ih => exact h.bind (hbody x) fun _ => ih

/-- A change beside the parts that count keeps the relation. -/
theorem change (h : Linked R) {change : Frontend T → Frontend T}
    (hset : ∀ f, (change f).setup = f.setup) (hr : ∀ f, (change f).registry = f.registry)
    (hq : ∀ f, (change f).queues = f.queues) (hs : ∀ f, (change f).scriptRuns = f.scriptRuns)
    (hp : ∀ f, (change f).parked = f.parked) (he : ∀ f, (change f).runs = f.runs) :
    Keeps R (modify change : FrontendM T PUnit) :=
  fun f => h.besides (hset f) (hr f) (hq f) (hs f) (hp f) (he f)

/-- Notices keep the relation. -/
theorem notify (h : Linked R) (n : Notice) : Keeps R (notify n : FrontendM T Unit) :=
  h.change (fun _ => rfl) (fun _ => rfl) (fun _ => rfl) (fun _ => rfl) (fun _ => rfl) fun _ => rfl

/-- Records keep the relation, but for those of scripts that start. -/
theorem record (h : Linked R) {e : Event T} (he : e.isRun = false) : Keeps R (record e) := by
  refine h.change (fun _ => rfl) (fun _ => rfl) (fun _ => rfl) (fun _ => rfl) (fun _ => rfl) fun f => ?_
  show (f.events.push e).toList.filter (·.isRun) = f.events.toList.filter (·.isRun)
  rw [Array.toList_push, List.filter_append, List.filter_singleton, he]
  exact List.append_nil _

/-- Changes of the emulator keep the relation. -/
theorem changeControl (h : Linked R) (change : Control → Control) :
    Keeps R (changeControl change : FrontendM T Unit) :=
  h.change (fun _ => rfl) (fun _ => rfl) (fun _ => rfl) (fun _ => rfl) (fun _ => rfl) fun _ => rfl

/-- Questions to the registry keep the relation. -/
theorem ask? (h : Linked R) (ask : Registry (Handler T) Dispatcher → α) :
    Keeps R (ask? ask) := fun f => h.refl f

/-- Using the registry keeps a relation if all that it does to the registry is a plain step. -/
theorem use? (h : Linked R)
    {use : Registry (Handler T) Dispatcher → α × Registry (Handler T) Dispatcher}
    (huse : ∀ r, ∃ x : Registry.Step (Handler T) Dispatcher,
      x.isPlain = true ∧ (use r).2 = r.perform x) : Keeps R (use? use) := by
  intro f
  cases hr : f.registry with
  | none =>
    rw [(after_useRegistry?_none use hr).1]
    exact h.refl f
  | some r =>
    obtain ⟨x, hx, hstep⟩ := huse r
    rw [(after_useRegistry?_some use hr).1, hstep]
    exact h.registry hr hx

/-! ## What is done with a registry -/

/-- To finish an action is a plain step, if there is a registry, and a notice. -/
theorem finishAction (h : Linked R) (a : Action) :
    Keeps R (finishAction a : FrontendM T Unit) := by
  refine h.bind (h.use? fun r => ⟨.finish a, rfl, rfl⟩) fun released => ?_
  cases released with
  | none => exact h.pure ()
  | some released => exact h.notify _

/-- To finish an invocation keeps the relation, in the registry that issued it and behind its back.
-/
theorem finish (h : Linked R) (i : Invocation (Handler T)) : Keeps R (finish i) := by
  intro f
  -- Only the registry that issued the invocation takes a step; otherwise there is a notice at most.
  by_cases hissued : ∃ r, f.registry = some r ∧ r.id = i.registry
  · obtain ⟨r, hr, hid⟩ := hissued
    rw [after_finish_of_issued hr hid, ← after_notify]
    exact h.trans (h.registry (x := .finishInvocation i) hr rfl) (h.notify _ _)
  · rw [after_finish_of_orphan fun r hr hid => hissued ⟨r, hr, hid⟩, ← after_notify]
    exact h.notify _ f

/-- Mappings are offered in one plain step of the registry, and then there are notices only. -/
theorem registerFor (h : Linked R) (machine : Option Machine) (ms : List (Mapping (Handler T))) :
    Keeps R (registerFor machine ms) := by
  refine h.bind (h.use? fun r => ⟨_, rfl, r.enrolWhere_eq_register _ ms⟩) fun es => ?_
  refine h.bind (h.forIn fun x _ => ?_) fun _ => ?_
  · obtain ⟨a, e⟩ := x
    dsimp only
    cases e.notice? machine a with
    | none => exact h.pure _
    | some n => exact h.bind (h.notify n) fun _ => h.pure _
  · refine h.bind (h.ask? _) fun total => ?_
    cases total with
    | none => exact h.pure _
    | some total => exact h.bind (h.notify _) fun _ => h.pure _

/-- The subsystems register one after the other. -/
theorem registerAll (h : Linked R) (machine : Machine) :
    Keeps R (registerAll machine : FrontendM T Report) :=
  h.bind (h.forIn fun _ _ => h.bind (h.registerFor _ _) fun _ => h.pure _) fun _ => h.pure _

/-- A shutdown is a plain step and a notice. -/
theorem shutdown (h : Linked R) : Keeps R (shutdown : FrontendM T Unit) := by
  refine h.bind (h.use? fun r => ⟨.shutdown, rfl, rfl⟩) fun released => ?_
  cases released with
  | none => exact h.pure ()
  | some released => exact h.notify _

/-- A restart is a shutdown, with a warning before it if anything is registered. -/
theorem restart (h : Linked R) : Keeps R (restart : FrontendM T Unit) := by
  refine h.bind (h.ask? _) fun populated => ?_
  cases populated with
  | none => exact h.pure ()
  | some populated =>
    cases populated with
    | true => exact h.bind (h.notify _) fun _ => h.shutdown
    | false => exact h.shutdown

/-! ## Dialogs and commands -/

/-- An accepted dialog acts on the emulator alone. -/
theorem accept (h : Linked R) (path : Option String) (what : OnAccept) :
    Keeps R (accept path what : FrontendM T Unit) := by
  cases what with
  | nothing => exact h.pure ()
  | record => exact h.record rfl
  | attachDisk unit =>
    cases path with
    | none => exact h.notify _
    | some image => exact h.bind (h.notify _) fun _ => h.changeControl _
  | loadHotkeys =>
    cases path with
    | none => exact h.notify _
    | some file => exact h.bind (h.notify _) fun _ => h.changeControl _
  | saveHotkeys =>
    cases path with
    | none => exact h.notify _
    | some file => exact h.bind (h.notify _) fun _ => h.changeControl _
  | quit => exact h.bind (h.notify _) fun _ => h.changeControl _

/-- A dialog that closes finishes the invocation that it was opened for. -/
theorem close (h : Linked R) (request : DialogRequest (Handler T)) (outcome : DialogOutcome) :
    Keeps R (close request outcome) := by
  refine h.bind (h.notify _) fun _ => ?_
  cases outcome with
  | accepted path => exact h.bind (h.accept path _) fun _ => h.finish _
  | cancelled => exact h.finish _

/-- A dialog that opens is put in the list of those open or answered at once. -/
theorem openDialog (h : Linked R) (request : DialogRequest (Handler T)) :
    Keeps R (openDialog request) := by
  refine h.bind (h.record rfl) fun _ f => ?_
  rw [after_bind, after_get, result_get]
  cases f.host with
  | hold => exact h.besides rfl rfl rfl rfl rfl rfl
  | answer outcome => exact h.close request outcome f

/-- The emulator may be changed only if notices are shown. -/
theorem changeNoticing (h : Linked R) (change : Control → Control) (told : Control → Notice) :
    Keeps R (changeNoticing change told : FrontendM T Unit) := by
  refine h.bind (fun f => h.refl f) fun f => ?_
  cases f.setup.logged .info with
  | false => exact h.pure ()
  | true => exact h.bind (h.changeControl _) fun _ => h.bind (fun f => h.refl f) fun _ => h.notify _

/-- The commands of the subsystems keep the relation: at most they finish their own invocation. -/
theorem perform (h : Linked R) (i : Invocation (Handler T)) (c : Command) :
    Keeps R (perform i c) := by
  cases c with
  | toggleWarp => exact h.changeNoticing _ _
  | togglePause => exact h.changeNoticing _ _
  | advanceFrame => exact h.changeControl _
  | detachAll => exact h.bind (h.notify _) fun _ => h.changeControl _
  | resetDrive unit =>
    exact h.bind (h.notify _) fun _ => h.bind (h.changeControl _) fun _ => h.finish i
  | reset kind => exact h.bind (h.notify _) fun _ => h.bind (h.changeControl _) fun _ => h.finish i
  | setHotkeys source => exact h.changeControl _
  | openDialog kind onAccept => exact h.openDialog _

/-! ## Scripts -/

/-- What a script does with the registry keeps a relation if requests do. -/
theorem stepOnRegistry (h : Linked R) {run : Invocation (Handler T) → FrontendM T Unit}
    (hrequest : ∀ a, Keeps R (triggerWith run a)) (use : RegistryStep T) :
    Keeps R (stepOnRegistry run use) := by
  cases use with
  | trigger a =>
    refine h.bind (hrequest a) fun outcome => ?_
    cases outcome with
    | none => exact h.pure ()
    | some outcome => exact h.record rfl
  | finish a => exact h.finishAction a
  | register ms => exact h.bind (h.registerFor none ms) fun _ => h.record rfl
  | restart => exact h.restart
  | shutdown => exact h.shutdown
  | state =>
    refine h.bind (fun f => h.refl f) fun f => h.bind (h.ask? _) fun status => ?_
    cases status with
    | none => exact h.pure ()
    | some status => exact h.record rfl
  | malformed text => exact h.record rfl

/-- A step of a script keeps a relation if requests do, and if putting its invocation aside does. -/
theorem step (h : Linked R) {run : Invocation (Handler T) → FrontendM T Unit}
    (hrequest : ∀ a, Keeps R (triggerWith run a)) {i : Invocation (Handler T)}
    (hpark : Keeps R (FrontendM.park i)) (s : ScriptStep T) : Keeps R (step run i s) := by
  cases s with
  | finish => exact h.finish i
  | park => exact hpark
  | openDialog kind recorded => exact h.openDialog _
  | onRegistry name use =>
    refine h.bind (fun f => h.refl f) fun alive => ?_
    cases alive with
    | true => exact h.stepOnRegistry hrequest use
    | false => exact h.record rfl
  | malformed text => exact h.record rfl

end Frontend.Linked

/-- To put an invocation aside keeps the relation. -/
theorem Frontend.Chained.park {T : Type} {R : Frontend T → Frontend T → Prop} (h : Chained R)
    (i : Invocation (Handler T)) : FrontendM.Keeps R (FrontendM.park i) :=
  fun _ => h.aside rfl rfl rfl rfl

/-- What has to be shown besides for handlers to keep a relation: it holds when a script is counted,
and a request keeps it if the handlers that it runs do. -/
structure Frontend.Closed {T : Type} (R : Frontend T → Frontend T → Prop) : Prop
    extends Frontend.Chained R where
  count : ∀ f, R f { f with scriptRuns := f.scriptRuns + 1 }
  request : ∀ {run : Invocation (Handler T) → FrontendM T Unit},
    (∀ i, FrontendM.Keeps R (run i)) → ∀ a, FrontendM.Keeps R (FrontendM.triggerWith run a)

namespace Frontend.Closed

open FrontendM

variable {T : Type} {R : Frontend T → Frontend T → Prop}

/-- A step of a script keeps the relation if handlers do. -/
theorem step (h : Closed R) {run : Invocation (Handler T) → FrontendM T Unit}
    (hrun : ∀ i, Keeps R (run i)) (i : Invocation (Handler T)) (s : ScriptStep T) :
    Keeps R (step run i s) :=
  h.toLinked.step (h.request hrun) (h.park i) s

/-- Handlers keep the relation, however deep they are nested. -/
theorem runNested (h : Closed R) (depth : Nat) (onMain : Bool) (i : Invocation (Handler T)) :
    Keeps R (runNested depth onMain i) := by
  -- The induction is on the depth: the requests of a script run handlers that are one level deeper.
  induction depth generalizing i with
  | zero => exact h.pure ()
  | succ depth ih =>
    intro f
    cases hi : i.handler with
    | command c =>
      have : FrontendM.runNested (depth + 1) onMain i = FrontendM.perform i c := by
        unfold FrontendM.runNested
        rw [hi]
      rw [this]
      exact h.perform i c f
    | script tag steps =>
      rw [after_runNested_script hi]
      -- The start of the script is recorded first, and it is counted even where the limit is
      -- reached.
      have hrecord : R f { f with events := f.events.push (.run i.action i.flags tag onMain) } :=
        h.aside rfl rfl rfl rfl
      refine h.trans hrecord (h.trans (h.count _) ?_)
      split
      · exact h.forM (fun s => h.step ih i s) _
      · exact h.refl _

/-- Handlers keep the relation. -/
theorem runInvocation (h : Closed R) (onMain : Bool) (i : Invocation (Handler T)) :
    Keeps R (runInvocation onMain i) :=
  fun f => h.runNested _ onMain i f

/-- Requests keep the relation. -/
theorem trigger? (h : Closed R) (onMain : Bool) (a : Action) :
    Keeps R (trigger? onMain a : FrontendM T (Option Outcome)) :=
  h.request (fun i => h.runInvocation onMain i) a

end Frontend.Closed

end Switchboard
