import Switchboard.Proofs.Frontend.Acts

/-!
# Whose handlers are run

A frontend runs the handlers of invocations that its registry has issued, and of no others: at once,
from a queue, or after they were put aside. Scripts are recorded when they start, so the record of a
session can be held against the run of its registry. `Traced` says that everything that waits, was
put aside or was recorded stems from such a run, and `traced_play` that it does in every session.

Nothing that runs a handler keeps this for any invocation, only for one that was issued. So a
relation that is to be kept is about invocations that someone holds (`Traces`).
-/

namespace Switchboard

/-- An invocation is issued in a run. -/
def Registry.Issues {H D : Type} (r : Registry H D) (steps : List (Step H D)) (i : Invocation H) :
    Prop :=
  r.Occurs (fun r x => r.accepted? x = some i) steps

/-- What was issued in a run was issued in a longer one. -/
theorem Registry.Issues.append {H D : Type} {r : Registry H D} {steps : List (Step H D)}
    {i : Invocation H} (h : r.Issues steps i) (more : List (Step H D)) :
    r.Issues (steps ++ more) i :=
  occurs_append.2 (.inl h)

/-- What the last step issues is issued. -/
theorem Registry.issues_of_accepted {H D : Type} {r : Registry H D} {steps : List (Step H D)}
    {x : Step H D} {i : Invocation H} (h : (r.run steps).accepted? x = some i) :
    r.Issues (steps ++ [x]) i :=
  occurs_append.2 (.inr (.inl h))

namespace Frontend

open FrontendM

variable {T : Type} {r : Registry (Handler T) Dispatcher}
  {steps : List (Registry.Step (Handler T) Dispatcher)} {f g : Frontend T}

/-- The record of a script that was started for an invocation. -/
def Starts (i : Invocation (Handler T)) (e : Event T) : Prop :=
  ∃ tag script onMain, i.handler = .script tag script ∧ e = .run i.action i.flags tag onMain

/-- The registry of a frontend has come from another by some steps, which have issued every
invocation that waits in a queue, was put aside, or is one for which a script was started. -/
structure Traced (r : Registry (Handler T) Dispatcher)
    (steps : List (Registry.Step (Handler T) Dispatcher)) (f : Frontend T) : Prop where
  /-- The registry has taken these steps. -/
  registry : f.registry = some (r.run steps)
  /-- What waits was issued. -/
  waiting : ∀ queue ∈ f.queues, ∀ i ∈ queue.waiting, r.Issues steps i
  /-- What was put aside was issued. -/
  parked : ∀ i ∈ f.parked, r.Issues steps i
  /-- Scripts were started only for what was issued. -/
  runs : ∀ e ∈ f.runs, ∃ i, r.Issues steps i ∧ Starts i e

/-- The steps of the registry go on, and what is traced stays so, if what is held was issued. -/
def Traces (r : Registry (Handler T) Dispatcher) (held : List (Invocation (Handler T)))
    (f g : Frontend T) : Prop :=
  ∀ steps, Traced r steps f → (∀ i ∈ held, r.Issues steps i) → ∃ more, Traced r (steps ++ more) g

/-- What is no part of the registry, of what is to be run and of the records of scripts does not
matter. -/
theorem Traced.of_eq (h : Traced r steps f) (hr : g.registry = f.registry)
    (hq : g.queues = f.queues) (hp : g.parked = f.parked) (he : g.runs = f.runs) :
    Traced r steps g :=
  ⟨hr.trans h.registry, by rw [hq]; exact h.waiting, by rw [hp]; exact h.parked,
    by rw [he]; exact h.runs⟩

/-- A step of the registry leaves what was issued before. -/
theorem Traced.step (h : Traced r steps f) (x : Registry.Step (Handler T) Dispatcher) :
    Traced r (steps ++ [x]) { f with registry := some ((r.run steps).perform x) } where
  registry := by
    rw [Registry.run_append]
    rfl
  waiting := fun queue hqueue i hi => (h.waiting queue hqueue i hi).append [x]
  parked := fun i hi => (h.parked i hi).append [x]
  runs := by
    intro e he
    obtain ⟨i, hi, hstarts⟩ := h.runs e he
    exact ⟨i, hi.append [x], hstarts⟩

section

variable {held : List (Invocation (Handler T))}

/-- Nothing new is needed of the registry. -/
theorem Traces.of_traced
    (h : ∀ steps, Traced r steps f → (∀ i ∈ held, r.Issues steps i) → Traced r steps g) :
    Traces r held f g :=
  fun steps hf hheld => ⟨[], by rw [List.append_nil]; exact h steps hf hheld⟩

/-- What is held stays issued while the steps of the registry go on. -/
theorem Traces.trans {k : Frontend T} (h : Traces r held f g) (h' : Traces r held g k) :
    Traces r held f k := by
  intro steps hf hheld
  obtain ⟨more, hg⟩ := h steps hf hheld
  obtain ⟨more', hk⟩ := h' _ hg fun i hi => (hheld i hi).append more
  exact ⟨more ++ more', by rw [← List.append_assoc]; exact hk⟩

/-- What holds if nothing is held holds all the more. -/
theorem Traces.hold (h : Traces r [] f g) : Traces r held f g :=
  fun steps hf _ => h steps hf (List.forall_mem_nil _)

/-- All that runs no handler and puts nothing aside is traced. -/
theorem linked_traces (r : Registry (Handler T) Dispatcher)
    (held : List (Invocation (Handler T))) : Linked (Traces r held) where
  refl _ := .of_traced fun _ hf _ => hf
  trans h h' := h.trans h'
  besides _ hr hq _ hp he := .of_traced fun _ hf _ => hf.of_eq hr hq hp he
  registry {f r' x} hr _ := by
    intro steps hf _
    obtain rfl := Option.some.inj (hr.symm.trans hf.registry)
    exact ⟨[x], hf.step x⟩

end

/-! ## What is done with an invocation -/

variable (i : Invocation (Handler T))

/-- What is put aside was issued. -/
theorem park_traces : Keeps (Traces r [i]) (park i) := by
  intro f
  refine .of_traced fun steps hf hheld => { hf with parked := ?_ }
  exact List.forall_mem_append.2 ⟨hf.parked, hheld⟩

/-- What is sent was issued; if no one will take it out it is finished. -/
theorem send_traces (q : Nat) : Keeps (Traces r [i]) (send q i) := by
  intro f
  rcases after_send q i f with ⟨queue, hsent, heq⟩ | ⟨-, heq⟩
  · obtain ⟨old, hold, hsend⟩ := Option.bind_eq_some_iff.1 hsent
    obtain ⟨-, rfl⟩ := UiQueue.send?_eq_some_iff.1 hsend
    rw [heq]
    refine .of_traced fun steps hf hheld => { hf with waiting := fun queue hqueue => ?_ }
    rcases List.mem_or_eq_of_mem_set hqueue with hqueue | rfl
    · exact hf.waiting queue hqueue
    · exact List.forall_mem_append.2 ⟨hf.waiting old (List.mem_of_getElem? hold), hheld⟩
  · rw [heq]
    exact ((linked_traces r [i]).notify _ f).trans ((linked_traces r [i]).finish i _)

/-- A request holds what it was given, and that was issued. -/
theorem request_traces {run : Invocation (Handler T) → FrontendM T Unit}
    (hrun : ∀ i, Keeps (Traces r [i]) (run i)) (a : Action) :
    Keeps (Traces r []) (triggerWith run a) := by
  intro f
  rcases after_triggerWith run a f with ⟨-, heq⟩ | ⟨r', why, -, -, heq⟩ |
    ⟨r', i, route, hr, hv, heq⟩
  · rw [heq]
    exact (linked_traces r []).refl f
  · rw [heq]
    exact (linked_traces r []).notify _ f
  · rw [heq]
    intro steps hf _
    obtain rfl := Option.some.inj (hr.symm.trans hf.registry)
    have hlinked := linked_traces r [i]
    -- The step that accepts the request comes before all that is done with what it issues.
    have hissued : r.Issues (steps ++ [.trigger a f.now]) i := by
      refine Registry.issues_of_accepted ?_
      rw [Registry.accepted?, hv]
      rfl
    have hrest {m : FrontendM T Unit} (hm : Keeps (Traces r [i]) m) : ∃ more,
        Traced r (steps ++ more)
          (m.after { f with registry := some ((r.run steps).perform (.trigger a f.now)) }) := by
      obtain ⟨more, hmore⟩ := hm _ _ (hf.step (.trigger a f.now))
        (List.forall_mem_singleton.2 hissued)
      exact ⟨.trigger a f.now :: more, by rw [List.append_cons]; exact hmore⟩
    cases route with
    | none => exact hrest (hlinked.bind (hlinked.notify _) fun _ => hrun i)
    | some d =>
      refine hrest (hlinked.bind (hlinked.notify _) fun _ => ?_)
      cases d with
      | queue q => exact send_traces i q
      | park => exact park_traces i
      | runNow => exact hrun i
      | release => exact hlinked.finish i
      | discard => exact hlinked.pure ()

/-- A script that is started for what was issued is recorded. -/
theorem Traced.start {i : Invocation (Handler T)} (h : Traced r steps f)
    (hi : r.Issues steps i) {tag : T} {script : List (ScriptStep T)}
    (hscript : i.handler = .script tag script) (onMain : Bool) (n : Nat) :
    Traced r steps { f with
      events := f.events.push (.run i.action i.flags tag onMain), scriptRuns := n } := by
  refine { h with runs := ?_ }
  have hruns : ({ f with
      events := f.events.push (.run i.action i.flags tag onMain), scriptRuns := n } :
        Frontend T).runs = f.runs ++ [.run i.action i.flags tag onMain] := by
    show (f.events.push _).toList.filter (·.isRun) = _
    rw [Array.toList_push, List.filter_append]
    rfl
  rw [hruns]
  exact List.forall_mem_append.2 ⟨h.runs, List.forall_mem_singleton.2
    ⟨i, hi, tag, script, onMain, hscript, rfl⟩⟩

/-- The handler of what was issued is run, and whatever its script does. -/
theorem runNested_traces (depth : Nat) (onMain : Bool) :
    Keeps (Traces r [i]) (runNested depth onMain i) := by
  -- On how deep scripts may run each other's handlers, for whatever invocation they have.
  induction depth generalizing i with
  | zero => exact (linked_traces r [i]).pure ()
  | succ depth ih =>
    intro f
    cases hi : i.handler with
    | command c =>
      have hperform : runNested (depth + 1) onMain i = FrontendM.perform i c := by
        unfold runNested
        rw [hi]
      rw [hperform]
      exact (linked_traces r [i]).perform i c f
    | script tag script =>
      have hstep : ∀ s, Keeps (Traces r [i]) (step (runNested depth onMain) i s) :=
        (linked_traces r [i]).step (fun a f => (request_traces ih a f).hold) (park_traces i)
      have hscript : Keeps (Traces r [i]) (if f.scriptRuns < f.setup.scriptLimit
          then script.forM (step (runNested depth onMain) i) else pure ()) := by
        split
        · exact (linked_traces r [i]).forM hstep
        · exact (linked_traces r [i]).pure ()
      rw [after_runNested_script hi]
      intro steps hf hheld
      have hstarted := hf.start (hheld i (List.mem_singleton_self i)) hi onMain (f.scriptRuns + 1)
      exact hscript _ steps hstarted hheld

/-- The handler of what was issued is run, as deep as the setup allows. -/
theorem runInvocation_traces (onMain : Bool) : Keeps (Traces r [i]) (runInvocation onMain i) :=
  fun f => runNested_traces i _ onMain f

/-- A request traces what it issues. -/
theorem trigger?_traces (onMain : Bool) (a : Action) :
    Keeps (Traces r []) (trigger? onMain a : FrontendM T (Option Outcome)) :=
  request_traces (fun i => runInvocation_traces i onMain) a

/-! ## Drains -/

/-- A round of a drain runs what was issued. -/
theorem runHead_traces (q n : Nat) : Keeps (Traces r []) (runHead q n : FrontendM T Unit) := by
  induction n with
  | zero => exact (linked_traces r []).pure ()
  | succ n ih =>
    intro f
    rcases after_runHead_succ q n f with ⟨-, heq⟩ | ⟨i, queue, rest, hq, hw, heq⟩
    · rw [heq]
      exact ih f
    · rw [heq]
      refine Traces.trans ?_ (ih _)
      -- What is taken out of the queue was issued, and so was what is left in it.
      intro steps hf _
      have hwaiting := hf.waiting queue (List.mem_of_getElem? hq)
      rw [hw] at hwaiting
      obtain ⟨hi, hrest⟩ := List.forall_mem_cons.1 hwaiting
      have htaken : Traced r steps (takenOut f q i { queue with waiting := rest }) := by
        refine ⟨hf.registry, fun queue' hqueue => ?_, hf.parked, hf.runs⟩
        rcases List.mem_or_eq_of_mem_set hqueue with hqueue | rfl
        · exact hf.waiting queue' hqueue
        · exact hrest
      exact runInvocation_traces i true _ steps htaken (List.forall_mem_singleton.2 hi)

/-- A drain runs what was issued, whatever its handlers send in the meantime. -/
theorem drain_traces (q : Nat) : Keeps (Traces r []) (drain q : FrontendM T Nat) := by
  have hrounds : ∀ rounds, Keeps (Traces r []) (drainRounds q rounds : FrontendM T Nat) := by
    intro rounds
    induction rounds with
    | zero => exact (linked_traces r []).pure 0
    | succ rounds ih =>
      intro f
      by_cases hw : f.waiting q = []
      · rw [(after_drainRounds_of_empty hw _).1]
        exact (linked_traces r []).refl f
      · rw [(after_drainRounds_succ hw rounds).1]
        exact (runHead_traces q _ f).trans (ih _)
  exact fun f => hrounds _ f

/-! ## Sessions -/

/-- A queue may be changed if nothing new waits in it then. -/
theorem changeQueue_traces (q : Nat)
    (change : UiQueue (Invocation (Handler T)) → UiQueue (Invocation (Handler T)))
    (hchange : ∀ queue, (change queue).waiting ⊆ queue.waiting) :
    Keeps (Traces r []) (changeQueue? q change) := by
  intro f
  refine .of_traced fun steps hf _ => { hf with waiting := fun queue hqueue i hi => ?_ }
  obtain ⟨old, hold, hwaits⟩ := UiQueue.waiting_of_mem_modify hchange hqueue
  exact hf.waiting old hold i (hwaits hi)

/-- A dispatcher is set in one step of the registry. -/
theorem setDispatcher_traces (d : Dispatcher) :
    Keeps (Traces r []) (setDispatcher d : FrontendM T Unit) := by
  intro f steps hf _
  obtain ⟨hafter, hresult⟩ :=
    after_useRegistry?_some (fun r => (r.hasDispatcher, r.setDispatcher d)) hf.registry
  have hset : (setDispatcher d).after f = (notify (if (r.run steps).hasDispatcher
      then .dispatcherReplaced else .dispatcherInstalled)).after
        { f with registry := some ((r.run steps).perform (.setDispatcher d)) } := by
    simp only [setDispatcher, after_bind, hafter, hresult]
    rfl
  rw [hset]
  exact ⟨[.setDispatcher d], (hf.step (.setDispatcher d)).of_eq rfl rfl rfl rfl⟩

/-- Whatever a frontend is asked to do, it stays traced. -/
theorem act_traces (x : Act T) : Keeps (Traces r []) x.run := by
  have hlinked := linked_traces (T := T) r []
  cases x with
  | request onMain a => exact hlinked.bind (trigger?_traces onMain a) fun _ => hlinked.pure ()
  | requestByName onMain name =>
    exact hlinked.bind (hlinked.triggerByName? (trigger?_traces onMain) name) fun _ => hlinked.pure ()
  | finishAction a => exact hlinked.finishAction a
  | finish i => exact hlinked.finish i
  | closeDialog place outcome =>
    exact hlinked.bind (hlinked.closeDialog? place outcome) fun _ => hlinked.pure ()
  | runParked onMain place =>
    refine hlinked.bind (fun f => ?_) fun _ => hlinked.pure ()
    rw [withParked?, after_bind, after_get, result_get]
    cases hp : f.parked[place]? with
    | none => exact hlinked.refl f
    | some i =>
      intro steps hf _
      have hi := hf.parked i (List.mem_of_getElem? hp)
      show ∃ more, Traced r (steps ++ more) ((runInvocation onMain i).after f)
      exact runNested_traces i _ onMain f steps hf (List.forall_mem_singleton.2 hi)
  | register ms => exact hlinked.bind (hlinked.registerFor none ms) fun _ => hlinked.pure ()
  | registerAll machine => exact hlinked.bind (hlinked.registerAll machine) fun _ => hlinked.pure ()
  | restart => exact hlinked.restart
  | shutdown => exact hlinked.shutdown
  | setDispatcher d =>
    cases d with
    | queue q =>
      refine hlinked.bind (fun f => ?_) fun _ => hlinked.pure ()
      rw [setQueueDispatcher?, after_bind, after_get, result_get]
      split
      · exact hlinked.bind (setDispatcher_traces _) (fun _ => hlinked.pure _) f
      · exact hlinked.refl f
    | _ => exact setDispatcher_traces _
  | newQueue =>
    refine fun f => .of_traced fun steps hf _ => { hf with waiting := ?_ }
    exact List.forall_mem_append.2 ⟨hf.waiting, List.forall_mem_singleton.2 (List.forall_mem_nil _)⟩
  | dropQueue q =>
    have hdrop : Keeps (Traces r []) (changeQueue? q (·.dropReceiver)) :=
      changeQueue_traces q _ fun _ => List.nil_subset _
    exact hlinked.bind (hlinked.bind hdrop fun _ => hlinked.pure _) fun _ => hlinked.pure ()
  | dropSender q =>
    have hdrop : Keeps (Traces r []) (changeQueue? q (·.dropSender)) :=
      changeQueue_traces q _ fun _ => List.Subset.refl _
    exact hlinked.bind (hlinked.bind hdrop fun _ => hlinked.pure _) fun _ => hlinked.pure ()
  | runPending q => exact Act.keeps_of_drain hlinked.refl (drain_traces q) (.inl rfl)
  | runTimeout q => exact Act.keeps_of_drain hlinked.refl (drain_traces q) (.inr (.inl rfl))
  | runBlocking q => exact Act.keeps_of_drain hlinked.refl (drain_traces q) (.inr (.inr rfl))
  | sleep ms => exact hlinked.sleep ms

/-- In every session everything that waits, was put aside or was started stems from the run of the
registry. -/
theorem traced_play (capacity : Nat) (setup : Setup) (acts : List (Act T)) :
    ∃ steps, Traced (.new 0 capacity) steps ((start capacity setup).play acts) := by
  -- The steps that were taken are never revised, so what was issued stays issued.
  have hplay : ∀ (acts : List (Act T)) (f : Frontend T) steps, Traced (.new 0 capacity) steps f →
      ∃ more, Traced (.new 0 capacity) (steps ++ more) (f.play acts) := by
    intro acts
    induction acts with
    | nil => exact fun f steps hf => ⟨[], by rw [List.append_nil]; exact hf⟩
    | cons x acts ih =>
      intro f steps hf
      obtain ⟨more, hg⟩ := act_traces x f steps hf (List.forall_mem_nil _)
      obtain ⟨more', hk⟩ := ih _ _ hg
      exact ⟨more ++ more', by rw [← List.append_assoc]; exact hk⟩
  have hstart : Traced (.new 0 capacity) [] (start capacity setup : Frontend T) :=
    ⟨rfl, List.forall_mem_nil _, List.forall_mem_nil _, List.forall_mem_nil _⟩
  obtain ⟨more, hmore⟩ := hplay acts _ _ hstart
  exact ⟨more, hmore⟩

end Frontend

end Switchboard
