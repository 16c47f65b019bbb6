import Switchboard.Proofs.Frontend.DroppedQueues

/-!
# Invocations that cannot be delivered

When a request is accepted the registry notes all that the run holds, before anyone knows whether its
invocation can be delivered. A sender that finds the receiving end of its queue gone finishes the
invocation instead. That gives back what the request took and no more, since a request is accepted
only while its action is idle, and a dialog only while the slot is free
(`Coherent.finishInvocation_begin`). So a request that is dispatched in vain leaves nothing behind but
notices, and so does one that is refused (`LeadsNowhere.triggerWith`); whoever repeats it gets the
same answer however often he does (`LeadsNowhere.retry`).
-/

namespace Switchboard

namespace Registry

variable {H D : Type} {r : Registry H D} {a : Action} {e : Entry H}

namespace Coherent

/-- An action whose request is accepted is idle: to end its run changes nothing. -/
theorem stop_of_accepted (h : r.Coherent) (he : r.lookup? a = some e) (hr : r.refusal? e = none) :
    e.stop = e := by
  have hstamp : e.runningSince = none := by
    cases hf : e.flags.needsFinish with
    | true =>
      have hnone := h.runningSince?_of_accepted he hr hf
      rwa [runningSince?, he] at hnone
    | false => exact h.plain a e he hf
  have hbusy : e.busy = false := by simp [h.busy_eq a e he, hstamp]
  obtain ⟨action, handler, flags, busy, since⟩ := e
  obtain rfl : busy = false := hbusy
  obtain rfl : since = none := hstamp
  rfl

/-- The entry of an action whose request is accepted is what it was when the run has been started
and stopped. -/
theorem updateEntry_begin (h : r.Coherent) (he : r.lookup? a = some e) (hr : r.refusal? e = none)
    (now : Nat) :
    (r.begin e now).updateEntry a (·.stop) =
      { r with dialogOwner := (r.begin e now).dialogOwner } := by
  obtain rfl := h.action_of_lookup? he
  have hsame : ((·.stop) ∘ (·.start now)) e = e := h.stop_of_accepted he hr
  calc (r.begin e now).updateEntry e.action (·.stop)
      = { (r.updateEntry e.action (·.start now)).updateEntry e.action (·.stop) with
          dialogOwner := (r.begin e now).dialogOwner } := updateEntry_owner _ _ _ _
    _ = { r.updateEntry e.action ((·.stop) ∘ (·.start now)) with
          dialogOwner := (r.begin e now).dialogOwner } := by rw [updateEntry_updateEntry]
    _ = { r with dialogOwner := (r.begin e now).dialogOwner } := by
        rw [updateEntry_eq_self he hsame]

/-- To finish an invocation as soon as it is issued gives back all that the request took. -/
theorem finishInvocation_begin (h : r.Coherent) (he : r.lookup? a = some e)
    (hr : r.refusal? e = none) (now : Nat) :
    (r.begin e now).finishInvocation (r.issue e) =
      (if e.flags.needsFinish then .finished else .idle, r) := by
  obtain ⟨-, hfree, -⟩ := (r.refusal?_eq_none_iff e).1 hr
  obtain rfl := h.action_of_lookup? he
  have hbusy : e.busy = false := by rw [← h.stop_of_accepted he hr]; rfl
  have hentry : (r.begin e now).lookup? e.action = some (e.start now) := by
    rw [h.lookup?_begin he, if_pos rfl]
  have hepoch : (some r.epoch).any (· != (r.begin e now).epoch) = false := by
    simp [(r.begin_frame e now).2]
  -- A dialog holds the slot, and the slot was free; any other action leaves it.
  have howns : ((e.start now).flags.dialog && (r.begin e now).dialogOwner == some e.action) =
      e.flags.dialog := by
    cases hd : e.flags.dialog <;> simp [Entry.start, Registry.begin, hd]
  have hslot : (if e.flags.dialog then none else (r.begin e now).dialogOwner) = r.dialogOwner := by
    cases hd : e.flags.dialog with
    | false => simp [Registry.begin, hd]
    | true => simp [hfree hd]
  have hneeds : ((e.start now).busy || e.flags.dialog) = e.flags.needsFinish := by
    simp [Entry.start, hbusy, Flags.needsFinish]
  show (r.begin e now).release e.action (some r.epoch) = _
  rw [release_of_lookup? hentry hepoch, howns, hslot, hneeds, h.updateEntry_begin he hr]

end Coherent

end Registry

open FrontendM Registry

variable {T : Type}

/-- The dispatcher of a frontend's registry is a sender of a queue that has lost its receiving
end. -/
structure Frontend.LeadsNowhere (f : Frontend T) (r : Registry (Handler T) Dispatcher) : Prop where
  /-- The registry is that of the frontend. -/
  registry : f.registry = some r
  /-- Its records agree. -/
  coherent : r.Coherent
  /-- The queue that its dispatcher sends to is not received from. -/
  closed : ∃ q queue, r.dispatcher = some (.queue q) ∧ f.queues[q]? = some queue ∧
    queue.receiving = false

/-- Requests an action again and again, after waiting each time for some milliseconds. -/
def FrontendM.retry (run : Invocation (Handler T) → FrontendM T Unit) (a : Action)
    (waits : List Nat) : FrontendM T (List (Option Outcome)) :=
  waits.mapM fun ms => do
    sleep ms
    triggerWith run a

/-- To repeat a request is to wait, to make the request once, and to repeat it. -/
theorem FrontendM.retry_cons (run : Invocation (Handler T) → FrontendM T Unit) (a : Action)
    (ms : Nat) (waits : List Nat) :
    retry run a (ms :: waits) = (do
      sleep ms
      let answer ← triggerWith run a
      let answers ← retry run a waits
      return answer :: answers) := by
  rw [retry, List.mapM_cons, bind_assoc]
  rfl

/-- What the one who requests an action is told is up to the registry. -/
theorem FrontendM.result_triggerWith_congr (run : Invocation (Handler T) → FrontendM T Unit)
    (a : Action) {f g : Frontend T} (h : g.registry = f.registry) :
    (triggerWith run a).result g = (triggerWith run a).result f := by
  rw [result_triggerWith, result_triggerWith, h]
  congr 1
  funext r
  rw [r.judge_fst a g.now f.now]

namespace Frontend.LeadsNowhere

variable {f : Frontend T} {r : Registry (Handler T) Dispatcher} {a : Action} {fl : Flags}

/-- A request for an action that has to run on the UI thread is refused because something is in
flight, or it is dispatched and given back at once. -/
theorem triggerWith (h : f.LeadsNowhere r) (hfl : r.flags? a = some fl)
    (hui : fl.needsUiThread = true) (run : Invocation (Handler T) → FrontendM T Unit) :
    (∃ why : Refusal, (r.judge a f.now).1 = .refused why ∧ why.outcome.isDropped = true ∧
      (triggerWith run a).after f = f.noticing [why.notice a]) ∨
    ((r.judge a f.now).1.outcome = .dispatched ∧
      (triggerWith run a).after f = f.noticing [.dispatching a, .queueClosed a,
        Release.notice a (if fl.needsFinish then .finished else .idle)]) := by
  obtain ⟨q, queue, hd, hq, hclosed⟩ := h.closed
  obtain ⟨e, he, rfl⟩ := Option.map_eq_some_iff.1 hfl
  cases hr : r.refusal? e with
  | some why =>
    have hv : (r.judge a f.now).1 = .refused why := by simp [judge, he, hr]
    exact .inl ⟨why, hv, isDropped_of_refusal? hr (by rw [hd]; rfl),
      after_triggerWith_of_refused run h.registry hv⟩
  | none =>
    have hv : (r.judge a f.now).1 = .accepted (r.issue e) (some (.queue q)) := by
      simp [judge, he, hr, hui, hd]
    have haction : (r.issue e).action = a := h.coherent.action_of_lookup? he
    have hid : (r.begin e f.now).id = r.id := by
      rw [← perform_trigger_of_accepted f.now he hr]
      exact r.id_perform _
    have hnobody : f.queues[q]?.bind (·.send? (r.issue e)) = none := by
      rw [hq, Option.bind_some, UiQueue.send?, hclosed]
      rfl
    have hrestored : { f with registry := some r } = f := by rw [← h.registry]
    refine .inr ⟨by rw [hv]; rfl, ?_⟩
    rw [after_triggerWith_of_dispatched run h.registry hv, perform_trigger_of_accepted _ he hr]
    -- Nobody takes the invocation, and the sender finishes it.
    rcases after_send q (r.issue e) ({ f with registry := some (r.begin e f.now) }.noticing
      [.dispatching a]) with ⟨queue', hsent, -⟩ | ⟨-, heq⟩
    · exact absurd (hnobody.symm.trans hsent) (by simp)
    · refine heq.trans ?_
      rw [after_notify, after_finish_of_issued rfl hid, h.coherent.finishInvocation_begin he hr,
        haction]
      show ((noticing { f with registry := some r } [.dispatching a]).noticing
        [.queueClosed a]).noticing [_] = _
      rw [hrestored, noticing_noticing, noticing_noticing]
      rfl

/-- A frontend with the same registry and the same queues leads nowhere either. -/
theorem of_eq {g : Frontend T} (h : f.LeadsNowhere r) (hr : g.registry = f.registry)
    (hq : g.queues = f.queues) : g.LeadsNowhere r :=
  ⟨hr.trans h.registry, h.coherent, by rw [hq]; exact h.closed⟩

/-- A request for an action that has to run on the UI thread leaves nothing but notices. -/
theorem exists_noticing (h : f.LeadsNowhere r) (hfl : r.flags? a = some fl)
    (hui : fl.needsUiThread = true) (run : Invocation (Handler T) → FrontendM T Unit) :
    ∃ ns, (FrontendM.triggerWith run a).after f = f.noticing ns := by
  rcases h.triggerWith hfl hui run with ⟨why, -, -, hafter⟩ | ⟨-, hafter⟩
  · exact ⟨_, hafter⟩
  · exact ⟨_, hafter⟩

/-- Whoever repeats a request for an action that has to run on the UI thread gets the same answer
each time, and leaves nothing but notices. -/
theorem retry (h : f.LeadsNowhere r) (hfl : r.flags? a = some fl) (hui : fl.needsUiThread = true)
    (run : Invocation (Handler T) → FrontendM T Unit) (waits : List Nat) :
    (retry run a waits).result f =
        List.replicate waits.length ((FrontendM.triggerWith run a).result f) ∧
      ∃ ns, (retry run a waits).after f =
        { f with now := waits.foldl (· + ·) f.now }.noticing ns := by
  induction waits generalizing f with
  | nil => exact ⟨rfl, [], (noticing_nil f).symm⟩
  | cons ms waits ih =>
    rw [retry_cons]
    -- The first request leaves the frontend as it is, but for the time and for notices.
    have hslept : (sleep ms).after f = { f with now := f.now + ms } := rfl
    have hfirst := result_triggerWith_congr run a (f := f) (g := { f with now := f.now + ms }) rfl
    obtain ⟨ns, hafter⟩ := (h.of_eq (g := { f with now := f.now + ms }) rfl rfl).exists_noticing
      hfl hui run
    have hnext := result_triggerWith_congr run a (f := f)
      (g := noticing { f with now := f.now + ms } ns) rfl
    obtain ⟨hrest, more, hdone⟩ := ih
      (h.of_eq (g := noticing { f with now := f.now + ms } ns) rfl rfl)
    constructor
    · rw [result_bind, result_bind, result_bind, result_pure, hslept, hafter, hrest, hfirst, hnext,
        List.length_cons, List.replicate_succ]
    · refine ⟨ns ++ more, ?_⟩
      rw [after_bind, after_bind, after_bind, after_pure, hslept, hafter, hdone]
      show (noticing { f with now := waits.foldl (· + ·) (f.now + ms) } ns).noticing more = _
      rw [noticing_noticing, List.foldl_cons]

end Frontend.LeadsNowhere

namespace Frontend

/-- A dispatch that cannot be delivered is rolled back. In every state that a new registry can get
into whose dispatcher sends to a queue without receiving end, a request for a registered action that
has to run on the UI thread, whatever running a handler would do, either is dispatched or is refused
because something is in flight. In both cases nothing is changed, be it in the registry or anywhere
else in the frontend, but what was noticed; in the first the invocation was released. So whoever
repeats the request gets the same answer however often he does and however long he waits, and
still nothing is changed but the time. -/
theorem undelivered_request_is_rolled_back (id capacity : Nat)
    (steps : List (Step (Handler T) Dispatcher)) (f : Frontend T) (q : Nat)
    (queue : UiQueue (Invocation (Handler T)))
    (hr : f.registry = some ((new id capacity).run steps))
    (hd : ((new id capacity : Registry (Handler T) Dispatcher).run steps).dispatcher =
      some (.queue q))
    (hq : f.queues[q]? = some queue) (hclosed : queue.receiving = false) (a : Action) (fl : Flags)
    (hfl : ((new id capacity : Registry (Handler T) Dispatcher).run steps).flags? a = some fl)
    (hui : fl.uithread = true ∨ fl.dialog = true)
    (run : Invocation (Handler T) → FrontendM T Unit) :
    (((triggerWith run a).result f = some .dispatched ∧
        (triggerWith run a).after f = f.noticing [.dispatching a, .queueClosed a,
          Release.notice a (if fl.needsFinish then .finished else .idle)]) ∨
      ∃ why : Refusal, why.outcome.isDropped = true ∧
        (triggerWith run a).result f = some why.outcome ∧
        (triggerWith run a).after f = f.noticing [why.notice a]) ∧
    ∀ waits,
      (retry run a waits).result f =
          List.replicate waits.length ((triggerWith run a).result f) ∧
        ∃ ns, (retry run a waits).after f =
          { f with now := waits.foldl (· + ·) f.now }.noticing ns := by
  have h : f.LeadsNowhere ((new id capacity).run steps) :=
    ⟨hr, (coherent_new id capacity).run steps, q, queue, hd, hq, hclosed⟩
  have hui' : fl.needsUiThread = true := by simpa [Flags.needsUiThread] using hui
  have hresult := result_triggerWith run a f
  rw [hr, Option.map_some] at hresult
  refine ⟨?_, h.retry hfl hui' run⟩
  rcases h.triggerWith hfl hui' run with ⟨why, hv, hdropped, hafter⟩ | ⟨houtcome, hafter⟩
  · exact .inr ⟨why, hdropped, by rw [hresult, hv]; rfl, hafter⟩
  · exact .inl ⟨by rw [hresult, houtcome], hafter⟩

/-- The frontend with two dialogs and a queue that has lost its receiving end. -/
def closedQueue : Frontend Unit := (Frontend.start 2).play
  [.register [silentDialog .quit, silentDialog .aboutDialog], .newQueue, .setDispatcher (.queue 0),
    .dropQueue 0]

/-- The quit dialog is requested three times, is told each time that it was dispatched, and does not
get to hold the dialog slot. -/
theorem quit_dialog_is_dispatched_in_vain :
    (retry (runInvocation true) .quit [0, 5, 7]).result closedQueue =
        [some .dispatched, some .dispatched, some .dispatched] ∧
      ((retry (runInvocation true) .quit [0, 5, 7]).after closedQueue).registry =
        closedQueue.registry := by
  obtain ⟨-, hmany⟩ := undelivered_request_is_rolled_back 0 2
    [.register [silentDialog .quit, silentDialog .aboutDialog], .setDispatcher (.queue 0)]
    closedQueue 0 { receiving := false } rfl rfl rfl rfl .quit Flags.none.asDialog rfl (.inr rfl)
    (runInvocation true)
  obtain ⟨hanswers, ns, hafter⟩ := hmany [0, 5, 7]
  have hfirst : (triggerWith (runInvocation true) .quit).result closedQueue = some .dispatched := rfl
  exact ⟨by rw [hanswers, hfirst]; rfl, by rw [hafter]; rfl⟩

end Frontend

end Switchboard
