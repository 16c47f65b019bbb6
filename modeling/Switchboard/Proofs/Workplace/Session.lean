import Switchboard.Proofs.Workplace.InOrder

/-!
# Sessions at a workplace

What a user and the UI thread ask of a frontend, one thing after the other, is moves of its
workplace, with nothing in hand between two of them (`session_is_workplace`). So what holds in every
run of the workplace holds in every session, and what happens in the session is what its acts answer:
the outcomes of its requests, the counts of its drains and the dialogs that were closed
(`Frontend.history`).
-/

namespace Switchboard

open FrontendM

variable {T : Type} {machine : Machine}

namespace Frontend

/-- What a user, or the UI thread, asks of a frontend every day. -/
def Act.isEveryday : Act T → Bool
  | .request .. | .requestByName .. | .closeDialog .. | .runPending _ | .runTimeout _
  | .runBlocking _ | .sleep _ => true
  | _ => false

/-- The handler of an action has run if its request was answered so. -/
def ranIf (a : Action) (outcome : Option Outcome) : List Happening :=
  if outcome = some .ran then [.ran a] else []

/-- What a drain has executed is as many invocations as it has counted, of those that waited. -/
def executed (f : Frontend T) (q n : Nat) : List Happening :=
  ((f.waiting q).take n).map fun i => .executed i.action

/-- What happens with an act, as far as its answer tells. -/
def Act.happenings (f : Frontend T) : Act T → List Happening
  | .request onMain a => ranIf a ((trigger? onMain a).result f)
  | .requestByName onMain name =>
    match Action.parse name with
    | .ok a => ranIf a ((triggerByName? onMain name).result f)
    | .error _ => []
  | .runPending q => f.executed q (((runPending? q).result f).getD 0)
  | .runTimeout q => f.executed q ((((runTimeout? q).result f).getD none).getD 0)
  | .runBlocking q =>
    match (runBlocking? q).result f with
    | some (.ran n) => f.executed q n
    | _ => []
  | .closeDialog place outcome =>
    ((closeDialog? place outcome).result f).toList.map fun kind => .closed kind outcome
  | _ => []

/-- What happens in a session, in order. -/
def history (f : Frontend T) : List (Act T) → List Happening
  | [] => []
  | x :: acts => x.happenings f ++ (x.run.after f).history acts

end Frontend

namespace Workplace

/-- A frontend gets from one state to another by some moves, with which something happens. -/
def Leads (f g : Frontend T) (happenings : List Happening) : Prop :=
  ∃ moves, ({ frontend := f } : Workplace T).run moves = { frontend := g } ∧
    ({ frontend := f } : Workplace T).history moves = happenings

/-- Without a move nothing happens. -/
theorem Leads.refl (f : Frontend T) : Leads f f [] := ⟨[], rfl, rfl⟩

/-- What some moves lead to, more moves can go on from. -/
theorem Leads.trans {f g k : Frontend T} {xs ys : List Happening} (h : Leads f g xs)
    (h' : Leads g k ys) : Leads f k (xs ++ ys) := by
  obtain ⟨moves, hg, hxs⟩ := h
  obtain ⟨moves', hk, hys⟩ := h'
  refine ⟨moves ++ moves', ?_, ?_⟩
  · rw [run_append, hg, hk]
  · rw [history_append, hg, hxs, hys]

namespace InOrder

variable {f : Frontend T}

/-- What moves lead to is in order. -/
theorem of_leads {g : Frontend T} {xs : List Happening}
    (h : ({ frontend := f } : Workplace T).InOrder machine) (hleads : Leads f g xs) :
    ({ frontend := g } : Workplace T).InOrder machine := by
  obtain ⟨moves, hg, -⟩ := hleads
  exact hg ▸ h.run moves

/-! ## Requests -/

/-- A request is a move, and what is accepted is run or handed over at once. -/
theorem leads_trigger? (h : ({ frontend := f } : Workplace T).InOrder machine) (onMain : Bool)
    (a : Action) :
    Leads f ((trigger? onMain a).after f) (Frontend.ranIf a ((trigger? onMain a).result f)) := by
  have hresult : (trigger? onMain a).result f =
      f.registry.map fun r => (r.judge a f.now).1.outcome := result_triggerWith _ a f
  have hframe {g : Frontend T} (hafter : (trigger? onMain a).after f = g) :
      ({ frontend := g } : Workplace T) = { frontend := (trigger? onMain a).after f } := by
    rw [hafter]
  rw [hresult]
  rcases after_triggerWith (runInvocation onMain) a f with ⟨hr, -⟩ | ⟨r, why, hr, hv, hafter⟩ |
    ⟨r, i, route, hr, hv, hafter⟩
  · obtain ⟨r, hr', -⟩ := h.registry
    simp [hr] at hr'
  · have hrequest := request_of_refused (w := { frontend := f }) hr hv
    refine ⟨[.request a], ?_, ?_⟩
    · exact hrequest.trans (hframe hafter)
    · rw [hr, Option.map_some, hv]
      cases why <;> rfl
  · obtain ⟨r', hr', hf⟩ := h.registry
    obtain rfl := Option.some.inj (hr.symm.trans hr')
    obtain ⟨haction, -, -⟩ := hf.issued hv
    -- The two kinds of acceptance differ in the move that follows the request: one runs the
    -- handler, the other hands it over.
    cases route with
    | none =>
      have hrequest := request_of_called (w := { frontend := f }) hr hv
      refine ⟨[.request a, .call onMain 0], ?_, ?_⟩
      · show (({ frontend := f } : Workplace T).request a).perform (.call onMain 0) = _
        rw [hrequest]
        exact hframe hafter
      · show ((({ frontend := f } : Workplace T).request a).happening? (.call onMain 0)).toList ++
          [] = _
        rw [hrequest, hr, Option.map_some, hv, ← haction]
        rfl
    | some d =>
      have hrequest := request_of_carried (w := { frontend := f }) hr hv
      refine ⟨[.request a, .handOver onMain 0], ?_, ?_⟩
      · show (({ frontend := f } : Workplace T).request a).perform (.handOver onMain 0) = _
        rw [hrequest]
        exact hframe hafter
      · rw [hr, Option.map_some, hv]
        rfl

/-- A request by name is that of its action, or nothing happens. -/
theorem leads_requestByName (h : ({ frontend := f } : Workplace T).InOrder machine)
    (onMain : Bool) (name : String) :
    Leads f ((Frontend.Act.requestByName onMain name).run.after f)
      ((Frontend.Act.requestByName onMain name).happenings f) := by
  cases hparse : Action.parse name with
  | ok a =>
    have hsame : (triggerByName? onMain name : FrontendM T _) = trigger? onMain a := by
      rw [triggerByName?, hparse]
    simp only [Frontend.Act.run, Frontend.Act.happenings, hparse, hsame, after_bind, after_pure]
    exact h.leads_trigger? onMain a
  | error e =>
    -- A name that no action has is only taken notice of.
    obtain ⟨r, hr, -⟩ := h.registry
    have hsome : f.registry.isNone = false := by
      rw [show f.registry = some r from hr]
      rfl
    have hafter : (triggerByName? onMain name).after f = (notify (.failed e)).after f := by
      simp only [triggerByName?, hparse, after_bind, after_get, result_get, hsome]
      rfl
    simp only [Frontend.Act.run, Frontend.Act.happenings, hparse, after_bind, after_pure, hafter]
    refine ⟨[.requestByName name], ?_, rfl⟩
    show ({ frontend := f } : Workplace T).perform (.requestByName name) = _
    simp only [Workplace.perform, hparse, hsome]
    rfl

/-! ## Drains -/

/-- A turn of a drain takes an invocation out and runs it. -/
theorem leads_turn (h : ({ frontend := f } : Workplace T).InOrder machine)
    {i : Invocation (Handler T)} {queue : UiQueue (Invocation (Handler T))}
    {rest : List (Invocation (Handler T))} (hq : f.queues[0]? = some queue)
    (hw : queue.waiting = i :: rest) :
    let g := (runInvocation true i).after (takenOut f 0 i { queue with waiting := rest })
    Leads f g [.executed i.action] ∧ g.waiting 0 = rest := by
  intro g
  have htake : ({ frontend := f } : Workplace T).perform (.take 0) =
      { frontend := takenOut f 0 i { queue with waiting := rest }, taken := [i] } := by
    have hreceive : f.queues[0]?.bind (·.receive?) = some (i, { queue with waiting := rest }) := by
      rw [hq]
      exact UiQueue.receive?_eq_some_iff.2 ⟨rest, hw, rfl⟩
    simp only [Workplace.perform, hreceive]
    rfl
  have htaken := htake ▸ h.perform (.take 0)
  refine ⟨⟨[.take 0, .runTaken 0], ?_, ?_⟩, ?_⟩
  · rw [run_cons, htake]
    rfl
  · show ((({ frontend := f } : Workplace T).perform (.take 0)).happening? (.runTaken 0)).toList ++
      [] = _
    rw [htake]
    rfl
  · -- What the handler does leaves the queue.
    obtain ⟨r, m, events, notices, -, -, hafter⟩ :=
      htaken.after_run (htaken.taken i (List.mem_singleton_self i)) true
    have hqueues : g.queues = f.queues.set 0 { queue with waiting := rest } :=
      congrArg Frontend.queues hafter
    have hlt := (List.getElem?_eq_some_iff.1 hq).1
    rw [Frontend.waiting, hqueues, List.getElem?_set_self hlt]
    rfl

/-- A round of a drain takes out and runs one invocation after the other. -/
theorem leads_runHead (h : ({ frontend := f } : Workplace T).InOrder machine) {n : Nat}
    (hn : n ≤ (f.waiting 0).length) :
    Leads f ((runHead 0 n).after f) (f.executed 0 n) ∧
      ((runHead 0 n).after f).waiting 0 = (f.waiting 0).drop n := by
  -- The induction is on the length of the round, over every frontend that the turns before have led
  -- to.
  induction n generalizing f with
  | zero => exact ⟨.refl f, rfl⟩
  | succ n ih =>
    rcases after_runHead_succ 0 n f with ⟨hw, -⟩ | ⟨i, queue, rest, hq, hw, heq⟩
    · rw [hw] at hn
      simp at hn
    · obtain ⟨hturn, hrest⟩ := h.leads_turn hq hw
      have hwaiting : f.waiting 0 = i :: rest := by
        rw [Frontend.waiting, hq, ← hw]
        rfl
      rw [hwaiting, List.length_cons, Nat.add_le_add_iff_right] at hn
      obtain ⟨hround, hdrop⟩ := ih (h.of_leads hturn) (by rw [hrest]; exact hn)
      rw [heq, Frontend.executed, hwaiting, List.take_succ_cons, List.map_cons, List.drop_succ_cons]
      refine ⟨?_, hdrop.trans (by rw [hrest])⟩
      have hall := hturn.trans hround
      rw [Frontend.executed, hrest] at hall
      exact hall

/-- A drain runs what waits, and its handlers put nothing new in. -/
theorem leads_drain (h : ({ frontend := f } : Workplace T).InOrder machine) :
    Leads f ((drain 0).after f) (f.executed 0 ((drain 0).result f)) := by
  by_cases hw : f.waiting 0 = []
  · obtain ⟨hafter, hresult⟩ := after_drainRounds_of_empty hw (f.setup.scriptLimit + 2)
    rw [after_drain, result_drain, hafter, hresult]
    exact .refl f
  · -- The first round empties the queue, and the second finds nothing in it.
    obtain ⟨hafter, hresult⟩ := after_drainRounds_succ hw (f.setup.scriptLimit + 1)
    obtain ⟨hround, hempty⟩ := h.leads_runHead (Nat.le_refl _)
    rw [List.drop_length] at hempty
    obtain ⟨hafter', hresult'⟩ := after_drainRounds_of_empty hempty (f.setup.scriptLimit + 1)
    rw [after_drain, result_drain, hafter, hresult, hafter', hresult', Nat.add_zero]
    exact hround

/-- There is no queue but the first, and its receiving end is there. -/
theorem isSome_openQueue? (h : ({ frontend := f } : Workplace T).InOrder machine) (q : Nat) :
    (f.openQueue? q).isSome = decide (q = 0) := by
  obtain ⟨queue, hq, hopen⟩ := h.queue
  have hqueues : f.queues = [queue] := hq
  cases q with
  | zero => simp [Frontend.openQueue?, hqueues, hopen]
  | succ q => simp [Frontend.openQueue?, hqueues]

/-! ## Acts -/

/-- A dialog that is closed is left and then finished. -/
theorem leads_closeDialog (f : Frontend T) (place : Nat) (outcome : DialogOutcome) :
    Leads f ((Frontend.Act.closeDialog place outcome).run.after f)
      ((Frontend.Act.closeDialog place outcome).happenings f) := by
  cases hrequest : f.dialogs[place]? with
  | none =>
    simp only [Frontend.Act.run, Frontend.Act.happenings, closeDialog?, after_bind, after_get,
      result_bind, result_get, hrequest, after_pure, result_pure]
    exact .refl f
  | some request =>
    simp only [Frontend.Act.run, Frontend.Act.happenings, closeDialog?, after_bind, after_get,
      result_bind, result_get, hrequest, after_pure, result_pure, after_close, after_modify]
    refine ⟨[.leave place outcome, .finish 0], ?_, ?_⟩
    · simp only [run_cons, Workplace.perform, hrequest]
      rfl
    · simp only [history, happening?, hrequest]
      rfl

/-- A drain of what waits is some moves. -/
theorem leads_runPending (h : ({ frontend := f } : Workplace T).InOrder machine) (q : Nat) :
    Leads f ((Frontend.Act.runPending q).run.after f)
      ((Frontend.Act.runPending q).happenings f) := by
  have hopen := h.isSome_openQueue? q
  by_cases hq : q = 0
  · subst hq
    simp only [Frontend.Act.run, Frontend.Act.happenings, runPending?, after_bind, after_get,
      result_bind, result_get, hopen]
    exact h.leads_drain
  · simp only [Frontend.Act.run, Frontend.Act.happenings, runPending?, after_bind, after_get,
      result_bind, result_get, hopen, hq]
    exact .refl f

/-- A drain with a time limit is some moves. -/
theorem leads_runTimeout (h : ({ frontend := f } : Workplace T).InOrder machine) (q : Nat) :
    Leads f ((Frontend.Act.runTimeout q).run.after f)
      ((Frontend.Act.runTimeout q).happenings f) := by
  have hopen := h.isSome_openQueue? q
  cases hqueue : f.openQueue? q with
  | none =>
    simp only [Frontend.Act.run, Frontend.Act.happenings, runTimeout?, after_bind, after_get,
      result_bind, result_get, hqueue]
    exact .refl f
  | some queue =>
    rw [hqueue] at hopen
    obtain rfl : q = 0 := of_decide_eq_true hopen.symm
    cases hover : queue.waiting.isEmpty && !f.isConnected 0 with
    | true =>
      simp only [Frontend.Act.run, Frontend.Act.happenings, runTimeout?, after_bind, after_get,
        result_bind, result_get, hqueue, hover]
      exact .refl f
    | false =>
      simp only [Frontend.Act.run, Frontend.Act.happenings, runTimeout?, after_bind, after_get,
        result_bind, result_get, hqueue, hover]
      exact h.leads_drain

/-- A drain that blocks is some moves, or nothing is done. -/
theorem leads_runBlocking (h : ({ frontend := f } : Workplace T).InOrder machine) (q : Nat) :
    Leads f ((Frontend.Act.runBlocking q).run.after f)
      ((Frontend.Act.runBlocking q).happenings f) := by
  have hopen := h.isSome_openQueue? q
  cases hqueue : f.openQueue? q with
  | none =>
    simp only [Frontend.Act.run, Frontend.Act.happenings, runBlocking?, after_bind, after_get,
      result_bind, result_get, hqueue]
    exact .refl f
  | some queue =>
    rw [hqueue] at hopen
    obtain rfl : q = 0 := of_decide_eq_true hopen.symm
    cases hconnected : f.isConnected 0 with
    | true =>
      simp only [Frontend.Act.run, Frontend.Act.happenings, runBlocking?, after_bind, after_get,
        result_bind, result_get, hqueue, hconnected]
      exact .refl f
    | false =>
      simp only [Frontend.Act.run, Frontend.Act.happenings, runBlocking?, after_bind, after_get,
        result_bind, result_get, hqueue, hconnected]
      exact h.leads_drain

/-- What a frontend is asked to do is some moves, with which happens what it answers. -/
theorem leads_act (h : ({ frontend := f } : Workplace T).InOrder machine) {x : Frontend.Act T}
    (hx : x.isEveryday = true) : Leads f (x.run.after f) (x.happenings f) := by
  cases x with
  | request onMain a => exact h.leads_trigger? onMain a
  | requestByName onMain name => exact h.leads_requestByName onMain name
  | closeDialog place outcome => exact leads_closeDialog f place outcome
  | runPending q => exact h.leads_runPending q
  | runTimeout q => exact h.leads_runTimeout q
  | runBlocking q => exact h.leads_runBlocking q
  | sleep ms => exact ⟨[.sleep ms], rfl, rfl⟩
  | _ => simp [Frontend.Act.isEveryday] at hx

/-- A session is some moves, with which happens what it answers. -/
theorem leads_play (h : ({ frontend := f } : Workplace T).InOrder machine)
    {acts : List (Frontend.Act T)} (hacts : ∀ x ∈ acts, x.isEveryday = true) :
    Leads f (f.play acts) (f.history acts) := by
  induction acts generalizing f with
  | nil => exact .refl f
  | cons x acts ih =>
    obtain ⟨hx, hrest⟩ := List.forall_mem_cons.1 hacts
    have hfirst := h.leads_act hx
    exact hfirst.trans (ih (h.of_leads hfirst) hrest)

end InOrder

/-- Every session of a frontend that was furnished for a machine is a run of its workplace, and what
happens in the run is what the session answers. -/
theorem session_is_workplace (capacity : Nat) (machine : Machine) (setup : Setup)
    {acts : List (Frontend.Act T)} (hacts : ∀ x ∈ acts, x.isEveryday = true) :
    Leads (furnished capacity machine setup) ((furnished capacity machine setup).play acts)
      ((furnished capacity machine setup).history acts) :=
  (inOrder_furnished capacity machine setup).leads_play hacts

end Workplace

end Switchboard
