import Switchboard.Proofs.Frontend.Keeps
import Switchboard.Proofs.Registry.Coherence

/-!
# What requests do to registries and queues

`FrontendM.triggerWith` is one step of the registry and, if the request is accepted, the run of its
handler or the delivery to its dispatcher; `after_triggerWith` says so. From it follows what
requests do whatever their handlers do: the registry takes steps of its own only, so that what holds
in every run of a registry holds in every frontend (`closed_registryRuns`), and the queues only grow
(`closed_queuesGrow`).
-/

namespace Switchboard

/-- A queue takes in what is sent to it if its receiving end is there. -/
theorem UiQueue.send?_eq_some_iff {I : Type} {q q' : UiQueue I} {i : I} :
    q.send? i = some q' ↔ q.receiving = true ∧ { q with waiting := q.waiting ++ [i] } = q' := by
  unfold UiQueue.send?
  split_ifs with hr
  · simp [hr]
  · simp [hr]

/-- What is taken out of a queue has waited longest. -/
theorem UiQueue.receive?_eq_some_iff {I : Type} {q q' : UiQueue I} {i : I} :
    q.receive? = some (i, q') ↔ ∃ rest, q.waiting = i :: rest ∧ { q with waiting := rest } = q' := by
  unfold UiQueue.receive?
  cases q.waiting with
  | nil => simp
  | cons j rest => simp [and_assoc]

/-- If a queue is changed so that nothing new waits in it, what waits in a queue afterwards waited in
one before. -/
theorem UiQueue.waiting_of_mem_modify {I : Type} {qs : List (UiQueue I)} {n : Nat}
    {change : UiQueue I → UiQueue I} (hchange : ∀ q, (change q).waiting ⊆ q.waiting)
    {q : UiQueue I} (hq : q ∈ qs.modify n change) : ∃ old ∈ qs, q.waiting ⊆ old.waiting := by
  obtain ⟨k, hk⟩ := List.mem_iff_getElem?.1 hq
  rw [List.getElem?_modify] at hk
  obtain ⟨old, hold, rfl⟩ := Option.map_eq_some_iff.1 hk
  refine ⟨old, List.mem_of_getElem? hold, ?_⟩
  split_ifs
  · exact hchange old
  · exact List.Subset.refl _

open FrontendM

variable {T : Type}

namespace FrontendM

/-- What a request does: nothing without a registry; only a notice if it is refused; otherwise the
registry begins the run, and the handler is run or the invocation dispatched. -/
theorem after_triggerWith (run : Invocation (Handler T) → FrontendM T Unit) (a : Action)
    (f : Frontend T) :
    (f.registry = none ∧ (triggerWith run a).after f = f) ∨
    (∃ r why, f.registry = some r ∧ (r.judge a f.now).1 = .refused why ∧
      (triggerWith run a).after f = (notify (why.notice a)).after f) ∨
    ∃ r i route, f.registry = some r ∧ (r.judge a f.now).1 = .accepted i route ∧
      (triggerWith run a).after f =
        (match route with
          | none => notify (.running a) >>= fun _ => run i
          | some d => notify (.dispatching a) >>= fun _ => dispatch run i d).after
        { f with registry := some (r.perform (.trigger a f.now)) } := by
  cases hr : f.registry with
  | none =>
    obtain ⟨hafter, hresult⟩ := after_useRegistry?_none (·.judge a f.now) hr
    refine .inl ⟨rfl, ?_⟩
    simp only [triggerWith, after_bind, result_get, after_get, hafter, hresult, after_pure]
  | some r =>
    obtain ⟨hafter, hresult⟩ := after_useRegistry?_some (·.judge a f.now) hr
    cases hv : (r.judge a f.now).1 with
    | refused why =>
      -- A refused request leaves the registry as it is.
      have hsame : (r.judge a f.now).2 = r :=
        Registry.judge_refused (show r.judge a f.now = (.refused why, (r.judge a f.now).2) by
          rw [← hv])
      have hf : { f with registry := some r } = f := by rw [← hr]
      refine .inr (.inl ⟨r, why, rfl, hv, ?_⟩)
      simp only [triggerWith, after_bind, result_get, after_get, hafter, hresult, hv, hsame, hf,
        after_pure]
    | accepted i route =>
      refine .inr (.inr ⟨r, i, route, rfl, hv, ?_⟩)
      cases route with
      | none =>
        simp only [triggerWith, after_bind, result_get, after_get, hafter, hresult, hv, after_pure]
        rfl
      | some d =>
        simp only [triggerWith, after_bind, result_get, after_get, hafter, hresult, hv, after_pure]
        rfl

/-- A request that is refused is only noticed. -/
theorem after_triggerWith_of_refused (run : Invocation (Handler T) → FrontendM T Unit) {a : Action}
    {f : Frontend T} {r : Registry (Handler T) Dispatcher} (hr : f.registry = some r)
    {why : Refusal} (hv : (r.judge a f.now).1 = .refused why) :
    (triggerWith run a).after f = f.noticing [why.notice a] := by
  rcases after_triggerWith run a f with ⟨hnone, -⟩ | ⟨r', why', hr', hv', heq⟩ |
    ⟨r', i, route, hr', hv', -⟩
  · simp [hr] at hnone
  · obtain rfl := Option.some.inj (hr.symm.trans hr')
    obtain rfl := Admission.refused.inj (hv.symm.trans hv')
    exact heq.trans (after_notify _ f)
  · obtain rfl := Option.some.inj (hr.symm.trans hr')
    simp [hv] at hv'

/-- A request that is accepted to be run at once is noticed, and the handler is run. -/
theorem after_triggerWith_of_called (run : Invocation (Handler T) → FrontendM T Unit)
    {a : Action} {f : Frontend T} {r : Registry (Handler T) Dispatcher} (hr : f.registry = some r)
    {i : Invocation (Handler T)} (hv : (r.judge a f.now).1 = .accepted i none) :
    (triggerWith run a).after f = (run i).after
      ({ f with registry := some (r.perform (.trigger a f.now)) }.noticing [.running a]) := by
  rcases after_triggerWith run a f with ⟨hnone, -⟩ | ⟨r', why, hr', hv', -⟩ |
    ⟨r', i', route, hr', hv', heq⟩
  · simp [hr] at hnone
  · obtain rfl := Option.some.inj (hr.symm.trans hr')
    simp [hv] at hv'
  · obtain rfl := Option.some.inj (hr.symm.trans hr')
    obtain ⟨rfl, rfl⟩ := Admission.accepted.inj (hv.symm.trans hv')
    rw [heq, after_bind, after_notify]

/-- A request that is accepted for a dispatcher is noticed, and the invocation goes there. -/
theorem after_triggerWith_of_dispatched (run : Invocation (Handler T) → FrontendM T Unit)
    {a : Action} {f : Frontend T} {r : Registry (Handler T) Dispatcher} (hr : f.registry = some r)
    {i : Invocation (Handler T)} {d : Dispatcher}
    (hv : (r.judge a f.now).1 = .accepted i (some d)) :
    (triggerWith run a).after f = (dispatch run i d).after
      ({ f with registry := some (r.perform (.trigger a f.now)) }.noticing [.dispatching a]) := by
  rcases after_triggerWith run a f with ⟨hnone, -⟩ | ⟨r', why, hr', hv', -⟩ |
    ⟨r', i', route, hr', hv', heq⟩
  · simp [hr] at hnone
  · obtain rfl := Option.some.inj (hr.symm.trans hr')
    simp [hv] at hv'
  · obtain rfl := Option.some.inj (hr.symm.trans hr')
    obtain ⟨rfl, rfl⟩ := Admission.accepted.inj (hv.symm.trans hv')
    rw [heq, after_bind, after_notify]

/-- What the one who requests an action is told. -/
theorem result_triggerWith (run : Invocation (Handler T) → FrontendM T Unit) (a : Action)
    (f : Frontend T) :
    (triggerWith run a).result f = f.registry.map fun r => (r.judge a f.now).1.outcome := by
  cases hr : f.registry with
  | none =>
    obtain ⟨-, hresult⟩ := after_useRegistry?_none (·.judge a f.now) hr
    simp only [triggerWith, result_bind, result_get, after_get, hresult, result_pure,
      Option.map_none]
  | some r =>
    obtain ⟨-, hresult⟩ := after_useRegistry?_some (·.judge a f.now) hr
    simp only [triggerWith, result_bind, result_get, after_get, hresult, Option.map_some]
    cases (r.judge a f.now).1 with
    | refused why => rfl
    | accepted i route => cases route <;> rfl

/-- What sending an invocation to a queue does: the queue takes it in, or it is finished. -/
theorem after_send (q : Nat) (i : Invocation (Handler T)) (f : Frontend T) :
    (∃ queue, f.queues[q]?.bind (·.send? i) = some queue ∧
      (send q i).after f = { f with queues := f.queues.set q queue }) ∨
    (f.queues[q]?.bind (·.send? i) = none ∧
      (send q i).after f = (finish i).after ((notify (.queueClosed i.action)).after f)) := by
  cases hq : f.queues[q]?.bind (·.send? i) with
  | some queue =>
    refine .inl ⟨queue, rfl, ?_⟩
    simp only [send, after_bind, result_get, after_get, hq, after_modify]
  | none =>
    refine .inr ⟨rfl, ?_⟩
    simp only [send, after_bind, result_get, after_get, hq]

end FrontendM

/-- Handlers keep a relation if it holds when a request is accepted and when something is sent to a
queue. -/
theorem Frontend.Chained.closed {R : Frontend T → Frontend T → Prop} (h : Chained R)
    (count : ∀ f, R f { f with scriptRuns := f.scriptRuns + 1 })
    (accept : ∀ {f r} a, f.registry = some r →
      R f { f with registry := some (r.perform (.trigger a f.now)) })
    (send : ∀ q i, Keeps R (send q i)) : Closed R :=
  { h with
    count
    request := by
      intro run hrun a f
      rcases after_triggerWith run a f with ⟨-, heq⟩ | ⟨r, why, -, -, heq⟩ |
        ⟨r, i, route, hr, -, heq⟩
      · rw [heq]
        exact h.refl f
      · rw [heq]
        exact h.notify _ f
      · rw [heq]
        -- The request is accepted under the lock, and the dispatcher gets the invocation after
        -- that.
        refine h.trans (accept a hr) ?_
        cases route with
        | none => exact h.bind (h.notify _) (fun _ => hrun i) _
        | some d =>
          refine h.bind (h.notify _) (fun _ => ?_) _
          cases d with
          | queue q => exact send q i
          | park => exact h.park i
          | runNow => exact hrun i
          | release => exact h.finish i
          | discard => exact h.pure () }

/-! ## The registry takes steps of its own -/

/-- The registry of a frontend is that of another after some steps. -/
def Frontend.RegistryRuns (f g : Frontend T) : Prop :=
  ∃ steps, g.registry = f.registry.map (·.run steps)

/-- A registry that is left alone takes no step. -/
theorem Frontend.RegistryRuns.of_eq {f g : Frontend T} (h : g.registry = f.registry) :
    f.RegistryRuns g :=
  ⟨[], by rw [h]; simp⟩

/-- The steps of one computation come before those of the next. -/
theorem Frontend.RegistryRuns.trans {f g k : Frontend T} (h : f.RegistryRuns g)
    (h' : g.RegistryRuns k) : f.RegistryRuns k := by
  obtain ⟨steps, hg⟩ := h
  obtain ⟨more, hk⟩ := h'
  refine ⟨steps ++ more, ?_⟩
  rw [hk, hg, Option.map_map]
  congr 1
  funext r
  exact (r.run_append steps more).symm

/-- Whatever is done with a frontend, its registry takes steps. -/
theorem Frontend.chained_registryRuns : Chained (T := T) RegistryRuns where
  refl _ := .of_eq rfl
  trans h h' := h.trans h'
  aside _ hr _ _ := .of_eq hr
  registry {f r x} hr _ := ⟨[x], by rw [hr]; rfl⟩

/-- Whatever handlers and dispatchers do, all that happens to the registry is steps of its own. -/
theorem Frontend.closed_registryRuns : Closed (T := T) RegistryRuns := by
  refine chained_registryRuns.closed (fun f => .of_eq rfl) ?_ ?_
  · intro f r a hr
    exact ⟨[.trigger a f.now], by rw [hr]; rfl⟩
  · intro q i f
    rcases after_send q i f with ⟨queue, -, heq⟩ | ⟨-, heq⟩
    · rw [heq]
      exact .of_eq rfl
    · rw [heq]
      exact (chained_registryRuns.notify _ f).trans (chained_registryRuns.finish i _)

/-! ## Queues only grow -/

/-- Every queue has kept what waits in it, and what has been added is behind that. -/
def Frontend.QueuesGrow (f g : Frontend T) : Prop :=
  ∀ (n : Nat) (q : UiQueue (Invocation (Handler T))), f.queues[n]? = some q →
    ∃ more, g.queues[n]? = some { q with waiting := q.waiting ++ more }

/-- Queues that are left alone lose nothing. -/
theorem Frontend.QueuesGrow.of_eq {f g : Frontend T} (h : g.queues = f.queues) :
    f.QueuesGrow g :=
  fun _ q hq => ⟨[], by rw [h, hq, List.append_nil]⟩

/-- What is put in behind goes behind what was put in before. -/
theorem Frontend.QueuesGrow.trans {f g k : Frontend T} (h : f.QueuesGrow g)
    (h' : g.QueuesGrow k) : f.QueuesGrow k := by
  intro n q hq
  obtain ⟨more, hg⟩ := h n q hq
  obtain ⟨more', hk⟩ := h' n _ hg
  exact ⟨more ++ more', by rw [hk, List.append_assoc]⟩

/-- Nothing but handlers and dispatchers have to do with the queues. -/
theorem Frontend.chained_queuesGrow : Chained (T := T) QueuesGrow where
  refl _ := .of_eq rfl
  trans h h' := h.trans h'
  aside _ _ hq _ := .of_eq hq
  registry _ _ := .of_eq rfl

/-- Whatever handlers and dispatchers do, they take nothing out of a queue. -/
theorem Frontend.closed_queuesGrow : Closed (T := T) QueuesGrow := by
  refine chained_queuesGrow.closed (fun f => .of_eq rfl) (fun a _ => .of_eq rfl) ?_
  intro q i f
  rcases after_send q i f with ⟨queue, hsent, heq⟩ | ⟨-, heq⟩
  · rw [heq]
    -- The queue that took the invocation in has it at its end, and the others are as they were.
    intro n q' hq'
    obtain ⟨old, hold, hsend⟩ := Option.bind_eq_some_iff.1 hsent
    have hlt := (List.getElem?_eq_some_iff.1 hold).1
    by_cases hn : q = n
    · subst hn
      obtain rfl := Option.some.inj (hold.symm.trans hq')
      refine ⟨[i], ?_⟩
      rw [List.getElem?_set_self hlt, (UiQueue.send?_eq_some_iff.1 hsend).2]
    · exact ⟨[], by rw [List.getElem?_set_ne hn, hq', List.append_nil]⟩
  · rw [heq]
    exact (chained_queuesGrow.notify _ f).trans (chained_queuesGrow.finish i _)

end Switchboard
