import Switchboard.Proofs.Frontend.Drains

/-!
# What a frontend is asked to do

A session is what a frontend is asked to do with one registry, in order: requests, releases, dialogs
that are closed, mappings that are offered, dispatchers that are set, queues that are made, drained
and dropped. What any client may do keeps every relation that handlers keep (`Closed.act`); the rest
is few functions with a few cases each. One such relation is that senders of a queue are only ever
dropped, so that a drain that waits for the last of them comes to its end (`isConnected_drain`).
-/

namespace Switchboard

/-- One thing that a frontend is asked to do. -/
inductive Frontend.Act (T : Type)
  /-- Request an action, on the main thread or off it. -/
  | request (onMain : Bool) (a : Action)
  /-- Request the action of a name. -/
  | requestByName (onMain : Bool) (name : String)
  /-- Finish an action by its identifier. -/
  | finishAction (a : Action)
  /-- Finish an invocation. -/
  | finish (i : Invocation (Handler T))
  /-- Close an open dialog. -/
  | closeDialog (place : Nat) (outcome : DialogOutcome)
  /-- Run what was put aside, on the main thread or off it. -/
  | runParked (onMain : Bool) (place : Nat)
  /-- Offer mappings. -/
  | register (ms : List (Mapping (Handler T)))
  /-- Offer the mappings of all subsystems. -/
  | registerAll (machine : Machine)
  /-- Start over with an empty table. -/
  | restart
  /-- Empty the table. -/
  | shutdown
  /-- Set a dispatcher; a sender of a queue only if the queue's maker holds it. -/
  | setDispatcher (d : Dispatcher)
  /-- Make a queue. -/
  | newQueue
  /-- Drop the receiving end of a queue. -/
  | dropQueue (q : Nat)
  /-- Drop the sender of a queue's maker. -/
  | dropSender (q : Nat)
  /-- Run what waits in a queue. -/
  | runPending (q : Nat)
  /-- Run what waits in a queue, if it is not empty for good. -/
  | runTimeout (q : Nat)
  /-- Run what waits in a queue, if its last sender is gone. -/
  | runBlocking (q : Nat)
  /-- Let some time pass. -/
  | sleep (ms : Nat)

namespace Frontend

open FrontendM

variable {T : Type}

/-- What is done. -/
def Act.run : Act T → FrontendM T Unit
  | .request onMain a => do let _ ← trigger? onMain a
  | .requestByName onMain name => do let _ ← triggerByName? onMain name
  | .finishAction a => FrontendM.finishAction a
  | .finish i => FrontendM.finish i
  | .closeDialog place outcome => do let _ ← closeDialog? place outcome
  | .runParked onMain place => do let _ ← withParked? place (runInvocation onMain)
  | .register ms => do let _ ← FrontendM.register ms
  | .registerAll machine => do let _ ← FrontendM.registerAll machine
  | .restart => FrontendM.restart
  | .shutdown => FrontendM.shutdown
  | .setDispatcher (.queue q) => do let _ ← setQueueDispatcher? q
  | .setDispatcher d => FrontendM.setDispatcher d
  | .newQueue => do let _ ← FrontendM.newQueue
  | .dropQueue q => do let _ ← dropQueue? q
  | .dropSender q => do let _ ← dropSender? q
  | .runPending q => do let _ ← runPending? q
  | .runTimeout q => do let _ ← runTimeout? q
  | .runBlocking q => do let _ ← runBlocking? q
  | .sleep ms => FrontendM.sleep ms

/-- What any client may do; the rest is for who has made a queue or has the UI thread. -/
def Act.isClients : Act T → Bool
  | .setDispatcher _ | .newQueue | .dropQueue _ | .dropSender _ | .runPending _ | .runTimeout _
  | .runBlocking _ => false
  | _ => true

/-- The frontend after the acts of a list. -/
def play (f : Frontend T) (acts : List (Act T)) : Frontend T :=
  acts.foldl (fun f x => x.run.after f) f

/-! ## What clients may do -/

section

variable {R : Frontend T → Frontend T → Prop}

/-- A request by name keeps a relation if requests do; of a name that is none there is a notice. -/
theorem Linked.triggerByName? (h : Linked R) {onMain : Bool}
    (htrigger : ∀ a, Keeps R (FrontendM.trigger? onMain a : FrontendM T (Option Outcome)))
    (name : String) : Keeps R (triggerByName? onMain name : FrontendM T (Option Outcome)) := by
  unfold FrontendM.triggerByName?
  cases Action.parse name with
  | ok a => exact htrigger a
  | error e =>
    refine h.bind (fun f => h.refl f) fun f => ?_
    cases f.registry.isNone with
    | true => exact h.pure none
    | false => exact h.bind (h.notify _) fun _ => h.pure _

/-- A dialog that is closed keeps the relation, and so does one that is not there. -/
theorem Linked.closeDialog? (h : Linked R) (place : Nat) (outcome : DialogOutcome) :
    Keeps R (closeDialog? place outcome : FrontendM T (Option DialogKind)) := by
  refine h.bind (fun f => h.refl f) fun f => ?_
  cases f.dialogs[place]? with
  | none => exact h.pure none
  | some request =>
    exact h.bind (fun f => h.besides rfl rfl rfl rfl rfl rfl) fun _ =>
      h.bind (h.close request outcome) fun _ => h.pure _

/-- Time that passes keeps the relation. -/
theorem Linked.sleep (h : Linked R) (ms : Nat) : Keeps R (sleep ms : FrontendM T Unit) :=
  fun _ => h.besides rfl rfl rfl rfl rfl rfl

/-- What is done with an invocation that was put aside keeps the relation if it does with any. -/
theorem Closed.withParked? {α : Type} (h : Closed R) (place : Nat)
    {use : Invocation (Handler T) → FrontendM T α} (huse : ∀ i, Keeps R (use i)) :
    Keeps R (withParked? place use) := by
  refine h.bind (fun f => h.refl f) fun f => ?_
  cases f.parked[place]? with
  | none => exact h.pure none
  | some i => exact h.bind (huse i) fun _ => h.pure _

/-- Whatever clients do keeps a relation that handlers keep. -/
theorem Closed.act (h : Closed R) {x : Act T} (hx : x.isClients = true) : Keeps R x.run := by
  cases x with
  | request onMain a => exact h.bind (h.trigger? onMain a) fun _ => h.pure ()
  | requestByName onMain name =>
    exact h.bind (h.triggerByName? (h.trigger? onMain) name) fun _ => h.pure ()
  | finishAction a => exact h.finishAction a
  | finish i => exact h.finish i
  | closeDialog place outcome => exact h.bind (h.closeDialog? place outcome) fun _ => h.pure ()
  | runParked onMain place =>
    exact h.bind (h.withParked? place fun i => h.runInvocation onMain i) fun _ => h.pure ()
  | register ms => exact h.bind (h.registerFor none ms) fun _ => h.pure ()
  | registerAll machine => exact h.bind (h.registerAll machine) fun _ => h.pure ()
  | restart => exact h.restart
  | shutdown => exact h.shutdown
  | sleep ms => exact h.sleep ms
  | _ => simp [Act.isClients] at hx

end

/-! ## Drains on request -/

/-- What waits is run only if the queue is there. -/
theorem after_runPending? (q : Nat) (f : Frontend T) :
    (Act.runPending q).run.after f = f ∨
      ((f.openQueue? q).isSome = true ∧ (Act.runPending q).run.after f = (drain q).after f) := by
  by_cases hopen : (f.openQueue? q).isSome = true
  · exact .inr ⟨hopen, by simp [Act.run, runPending?, hopen]⟩
  · exact .inl (by simp [Act.run, runPending?, hopen])

/-- A drain with a time limit runs what waits, unless the queue is gone or empty for good. -/
theorem after_runTimeout? (q : Nat) (f : Frontend T) :
    (Act.runTimeout q).run.after f = f ∨
      ((f.openQueue? q).isSome = true ∧ (Act.runTimeout q).run.after f = (drain q).after f) := by
  cases hopen : f.openQueue? q with
  | none => exact .inl (by simp [Act.run, runTimeout?, hopen])
  | some queue =>
    cases hover : queue.waiting.isEmpty && !f.isConnected q with
    | true =>
      refine .inl ?_
      simp only [Act.run, runTimeout?, after_bind, after_get, result_get, hopen, hover]
      rfl
    | false =>
      refine .inr ⟨rfl, ?_⟩
      simp only [Act.run, runTimeout?, after_bind, after_get, result_get, hopen, hover]
      rfl

/-- A drain that blocks runs what waits only if no sender is left, for it would not return
otherwise. -/
theorem after_runBlocking? (q : Nat) (f : Frontend T) :
    (Act.runBlocking q).run.after f = f ∨
      ((f.openQueue? q).isSome = true ∧ f.isConnected q = false ∧
        (Act.runBlocking q).run.after f = (drain q).after f) := by
  cases hopen : f.openQueue? q with
  | none => exact .inl (by simp [Act.run, runBlocking?, hopen])
  | some queue =>
    cases hconnected : f.isConnected q with
    | true => exact .inl (by simp [Act.run, runBlocking?, hopen, hconnected])
    | false => exact .inr ⟨rfl, rfl, by simp [Act.run, runBlocking?, hopen, hconnected]⟩

/-- A drain on request keeps what a drain keeps. -/
theorem Act.keeps_of_drain {R : Frontend T → Frontend T → Prop} (hrefl : ∀ f, R f f) {q : Nat}
    (hdrain : Keeps R (drain q : FrontendM T Nat)) {x : Act T}
    (hx : x = .runPending q ∨ x = .runTimeout q ∨ x = .runBlocking q) : Keeps R x.run := by
  intro f
  have hcases : x.run.after f = f ∨ x.run.after f = (drain q).after f := by
    rcases hx with rfl | rfl | rfl
    · exact (after_runPending? q f).imp_right And.right
    · exact (after_runTimeout? q f).imp_right And.right
    · exact (after_runBlocking? q f).imp_right fun h => h.2.2
  rcases hcases with heq | heq
  · rw [heq]
    exact hrefl f
  · rw [heq]
    exact hdrain f

/-! ## Senders that are gone -/

/-- No sender of a queue comes back once the last one is gone. -/
def SendersGo (f g : Frontend T) : Prop :=
  ∀ q, f.isConnected q = false → g.isConnected q = false

/-- Senders are only dropped if none is installed or taken. -/
theorem SendersGo.of_feeds {f g : Frontend T}
    (hd : ∀ q, f.feeds q = false → g.feeds q = false)
    (hs : ∀ q : Nat, g.queues[q]?.any (·.senderHeld) = f.queues[q]?.any (·.senderHeld)) :
    SendersGo f g := by
  intro q hq
  obtain ⟨hheld, hfeeds⟩ := Bool.or_eq_false_iff.1 hq
  exact Bool.or_eq_false_iff.2 ⟨(hs q).trans hheld, hd q hfeeds⟩

/-- A sender that is held stays so if the queue is replaced by one of the same sender. -/
theorem senderHeld_set {f : Frontend T} {q : Nat} {old new : UiQueue (Invocation (Handler T))}
    (hold : f.queues[q]? = some old) (hs : new.senderHeld = old.senderHeld) (n : Nat) :
    (f.queues.set q new)[n]?.any (·.senderHeld) = f.queues[n]?.any (·.senderHeld) := by
  by_cases hn : q = n
  · subst hn
    rw [List.getElem?_set_self (List.getElem?_eq_some_iff.1 hold).1, hold]
    exact hs
  · rw [List.getElem?_set_ne hn]

/-- A step that sets no dispatcher makes no sender. -/
theorem SendersGo.step {f : Frontend T} {r : Registry (Handler T) Dispatcher}
    {x : Registry.Step (Handler T) Dispatcher} (hr : f.registry = some r)
    (hx : ∀ d, x ≠ .setDispatcher d) :
    SendersGo f { f with registry := some (r.perform x) } := by
  refine .of_feeds (fun q hq => ?_) fun _ => rfl
  unfold feeds at hq ⊢
  rw [hr] at hq
  -- Only setting a dispatcher gives the registry a sender.
  show ((r.perform x).dispatcher == some (.queue q)) = false
  rw [Registry.dispatcher_perform]
  cases x with
  | setDispatcher d => exact absurd rfl (hx d)
  | shutdown => rfl
  | _ => exact hq

/-- To drop senders can be chained, and nothing beside the registry and the queues has to do with
it. -/
theorem chained_sendersGo : Chained (T := T) SendersGo where
  refl _ _ h := h
  trans h h' q hq := h' q (h q hq)
  aside _ hr hq _ :=
    .of_feeds (fun q h => by unfold feeds at h ⊢; rw [hr]; exact h) fun q => by rw [hq]
  registry {f r x} hr hx := .step hr (by rintro d rfl; simp [Registry.Step.isPlain] at hx)

/-- Whatever handlers and dispatchers do, they make no sender. -/
theorem closed_sendersGo : Closed (T := T) SendersGo := by
  refine chained_sendersGo.closed (fun f => .of_feeds (fun _ h => h) fun _ => rfl)
    (fun a hr => .step hr (by simp)) fun q i f => ?_
  rcases after_send q i f with ⟨queue, hsent, heq⟩ | ⟨-, heq⟩
  · rw [heq]
    obtain ⟨old, hold, hsend⟩ := Option.bind_eq_some_iff.1 hsent
    have hs : queue.senderHeld = old.senderHeld := by
      rw [← (UiQueue.send?_eq_some_iff.1 hsend).2]
    exact .of_feeds (fun _ h => h) (senderHeld_set hold hs)
  · rw [heq]
    exact chained_sendersGo.trans (chained_sendersGo.notify _ f) (chained_sendersGo.finish i _)

/-- A queue that no sender is left of is so when its drain is over. -/
theorem isConnected_drain {f : Frontend T} {q : Nat} (h : f.isConnected q = false) :
    ((drain q).after f).isConnected q = false := by
  refine closed_sendersGo.drain (fun hq _ => ?_) q f q h
  exact .of_feeds (fun _ h => h) (senderHeld_set hq rfl)

end Frontend

end Switchboard
