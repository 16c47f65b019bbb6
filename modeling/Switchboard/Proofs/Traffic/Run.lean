import Switchboard.Proofs.Registry.Run
import Switchboard.Proofs.Traffic.Desk

/-!
# Traffic between clients and the UI thread

Any number of clients use one registry, and the queues to the UI thread are drained while they do.
A request is accepted under the lock of the registry, but handed to its dispatcher after the lock
has been released; until then the client carries it, and other clients, other drains and the
handlers that run go on. A run of the traffic is therefore a list of moves, each of which one party
makes at once, in any order. A move that cannot be made where it stands in the list is skipped, so
every list of moves is a run.

What a handler does while it runs is moves like those of any client; only those of its own drain
wait until it returns.
-/

namespace Switchboard

/-- A registry, the queues of its dispatchers, and what is on the way between them. -/
structure Traffic (H : Type) where
  /-- The registry. -/
  registry : Registry H Dispatcher
  /-- The queues, by number. -/
  desks : List (Desk H) := []
  /-- Every request that was accepted for the UI thread, in the order of acceptance. -/
  admitted : List (Ticket H) := []
  /-- What was accepted and has not been handed over yet. -/
  carried : List (Ticket H) := []
  /-- What a queue without receiving end gave back. -/
  returned : List (Ticket H) := []
  /-- What was handed to a dispatcher that is no sender of a queue. -/
  elsewhere : List (Ticket H) := []
  /-- What a client has run where it made the request. -/
  ranAtOnce : List (Invocation H) := []

/-- One thing that happens in the traffic. -/
inductive Traffic.Move (H : Type)
  /-- A client takes a step with the registry. -/
  | client (step : Registry.Step H Dispatcher)
  /-- A client hands over what is carried at a place. -/
  | handOver (place : Nat)
  /-- A queue is made. -/
  | openQueue
  /-- A drain of a queue begins. -/
  | beginDrain (queue : Nat) (kind : DrainKind)
  /-- The drain of a queue takes an invocation out and begins to run its handler. -/
  | take (queue : Nat)
  /-- The handler that the drain of a queue is running returns. -/
  | handlerReturns (queue : Nat)
  /-- The drain of a queue ends. -/
  | endDrain (queue : Nat)
  /-- The receiving end of a queue is dropped. -/
  | dropReceiver (queue : Nat)
  /-- The sender of a queue's maker is dropped. -/
  | dropSender (queue : Nat)

namespace Traffic

variable {H : Type}

/-- A registry that has just been made, and no queues. -/
def start (id capacity : Nat) : Traffic H := { registry := .new id capacity }

/-- Whether a sender of a queue is left: the one of the queue's maker, the dispatcher of the
registry, or one that a client holds to hand something over. -/
def isConnected (s : Traffic H) (q : Nat) : Bool :=
  s.desks[q]?.any (·.queue.senderHeld) || s.registry.dispatcher == some (.queue q) ||
    s.carried.any (·.route == .queue q)

/-- Only who has a sender of a queue can make it the dispatcher. -/
def permits (s : Traffic H) : Registry.Step H Dispatcher → Bool
  | .setDispatcher (.queue q) => s.desks[q]?.any (·.queue.senderHeld)
  | _ => true

/-- What follows from the judgement of a request: nothing, the client runs the handler, or it
carries a ticket to the dispatcher. -/
def judged (s : Traffic H) : Admission H Dispatcher → Traffic H
  | .refused _ => s
  | .accepted i none => { s with ranAtOnce := s.ranAtOnce ++ [i] }
  | .accepted i (some d) =>
    let t : Ticket H := ⟨s.admitted.length, d, i⟩
    { s with admitted := s.admitted ++ [t], carried := s.carried ++ [t] }

/-- A client takes a step with the registry. -/
def client (s : Traffic H) : Registry.Step H Dispatcher → Traffic H
  | .trigger a now =>
    let (v, r) := s.registry.judge a now
    { s with registry := r }.judged v
  | step => if s.permits step then { s with registry := s.registry.perform step } else s

/-- A ticket is handed to its dispatcher. A queue that does not take it gives it back to the client,
for whom it is left to finish the invocation. -/
def deliver (s : Traffic H) (t : Ticket H) : Traffic H :=
  match t.route with
  | .queue q =>
    match s.desks[q]?.bind (·.enter? t) with
    | some d => { s with desks := s.desks.set q d }
    | none => { s with returned := s.returned ++ [t] }
  | _ => { s with elsewhere := s.elsewhere ++ [t] }

/-- What is carried at a place is handed over. -/
def handOver (s : Traffic H) (place : Nat) : Traffic H :=
  match s.carried[place]? with
  | none => s
  | some t => { s with carried := s.carried.eraseIdx place }.deliver t

/-- A queue changes. -/
def changeDesk (s : Traffic H) (q : Nat) (change : Desk H → Desk H) : Traffic H :=
  { s with desks := s.desks.modify q change }

/-- The traffic after one move. -/
def perform (s : Traffic H) : Move H → Traffic H
  | .client step => s.client step
  | .handOver place => s.handOver place
  | .openQueue => { s with desks := s.desks ++ [{}] }
  | .beginDrain q kind => s.changeDesk q (·.beginDrain kind)
  | .take q => s.changeDesk q (·.take)
  | .handlerReturns q => s.changeDesk q (·.handlerReturns)
  | .endDrain q => s.changeDesk q (·.endDrain (s.isConnected q))
  | .dropReceiver q => s.changeDesk q (·.dropReceiver)
  | .dropSender q => s.changeDesk q (·.dropSender)

/-- The traffic after the moves of a list. -/
def run (s : Traffic H) (moves : List (Move H)) : Traffic H := moves.foldl perform s

/-- Without moves the traffic stays as it is. -/
@[simp] theorem run_nil (s : Traffic H) : s.run [] = s := rfl

/-- The first move is made first. -/
@[simp] theorem run_cons (s : Traffic H) (m : Move H) (moves : List (Move H)) :
    s.run (m :: moves) = (s.perform m).run moves := rfl

/-- A run can be cut anywhere. -/
theorem run_append (s : Traffic H) (before after : List (Move H)) :
    s.run (before ++ after) = (s.run before).run after :=
  List.foldl_append

/-! ## What a client's step does -/

/-- An accepted request is routed through the dispatcher of the registry exactly if it needs the UI
thread. -/
theorem judge_accepted {r r' : Registry H Dispatcher} {a : Action} {now : Nat} {i : Invocation H}
    {route : Option Dispatcher} (h : r.judge a now = (.accepted i route, r')) :
    r.accepted? (.trigger a now) = some i ∧ i.flags.needsUiThread = route.isSome ∧
      (∀ d, route = some d → r.dispatcher = some d) := by
  obtain ⟨e, he, hr, rfl, rfl, -⟩ := Registry.judge_accepted_iff.1 h
  refine ⟨Registry.accepted?_trigger_iff.2 ⟨e, he, hr, rfl⟩, ?_, ?_⟩
  · have := ((r.refusal?_eq_none_iff e).1 hr).2.2
    show e.flags.needsUiThread = _
    cases hu : e.flags.needsUiThread with
    | false => rfl
    | true => rw [if_pos rfl, this hu]
  · intro d hd
    split_ifs at hd with hu
    exact hd

/-- A request makes the registry go on, and then its judgement is followed. -/
theorem client_trigger (s : Traffic H) (a : Action) (now : Nat) :
    s.client (.trigger a now) = { s with registry := s.registry.perform (.trigger a now) }.judged
      (s.registry.judge a now).1 := rfl

/-- What a client's step does to the traffic. It is not permitted, and nothing happens; or it is a
request that is accepted and needs the UI thread, and a ticket is issued; or the registry goes on,
and a handler that is to run at once is run. -/
theorem client_cases (s : Traffic H) (x : Registry.Step H Dispatcher) :
    (s.permits x = false ∧ s.registry.accepted? x = none ∧ s.client x = s) ∨
    (s.permits x = true ∧ ∃ i d, s.registry.accepted? x = some i ∧
      i.flags.needsUiThread = true ∧ s.registry.dispatcher = some d ∧
      s.client x = { s with registry := s.registry.perform x,
                            admitted := s.admitted ++ [⟨s.admitted.length, d, i⟩],
                            carried := s.carried ++ [⟨s.admitted.length, d, i⟩] }) ∨
    (s.permits x = true ∧ (∀ i, s.registry.accepted? x = some i → i.flags.needsUiThread = false) ∧
      s.client x = { s with registry := s.registry.perform x,
                            ranAtOnce := s.ranAtOnce ++ (s.registry.accepted? x).toList }) := by
  by_cases ht : ∃ a now, x = .trigger a now
  · obtain ⟨a, now, rfl⟩ := ht
    have hj : s.registry.judge a now =
        ((s.registry.judge a now).1, (s.registry.judge a now).2) := rfl
    cases hv : (s.registry.judge a now).1 with
    | refused why =>
      have hn : s.registry.accepted? (.trigger a now) = none := by
        simp [Registry.accepted?, hv, Admission.invocation?]
      exact .inr (.inr ⟨rfl, by simp [hn], by rw [client_trigger, hv, hn]; simp [judged]⟩)
    | accepted i route =>
      obtain ⟨hi, hu, hd⟩ := judge_accepted (hv ▸ hj)
      -- The route tells whether the UI thread is needed.
      cases route with
      | none =>
        refine .inr (.inr ⟨rfl, fun j hj => ?_, by rw [client_trigger, hv, hi]; rfl⟩)
        obtain rfl := Option.some.inj (hi.symm.trans hj)
        exact hu
      | some d => exact .inr (.inl ⟨rfl, i, d, hi, hu, hd d rfl, by rw [client_trigger, hv]; rfl⟩)
  · have hn : s.registry.accepted? x = none := by
      -- Only requests are accepted, and only a sender of a queue can be refused as a dispatcher.
      cases x with
      | trigger a now => exact absurd ⟨a, now, rfl⟩ ht
      | _ => rfl
    have hc : s.client x =
        if s.permits x then { s with registry := s.registry.perform x } else s := by
      cases x with
      | trigger a now => exact absurd ⟨a, now, rfl⟩ ht
      | _ => rfl
    cases hp : s.permits x with
    | false => exact .inl ⟨rfl, hn, by rw [hc, hp]; simp⟩
    | true => exact .inr (.inr ⟨rfl, by simp [hn], by rw [hc, hp, hn]; simp⟩)

/-- What becomes of a ticket that is handed over: a queue takes it in or gives it back, or it was
meant for no queue. -/
theorem deliver_cases (s : Traffic H) (t : Ticket H) :
    (∃ q d d', t.route = .queue q ∧ s.desks[q]? = some d ∧ d.enter? t = some d' ∧
      s.deliver t = { s with desks := s.desks.set q d' }) ∨
    (∃ q, t.route = .queue q ∧ (∀ d, s.desks[q]? = some d → d.enter? t = none) ∧
      s.deliver t = { s with returned := s.returned ++ [t] }) ∨
    ((∀ q, t.route ≠ .queue q) ∧ s.deliver t = { s with elsewhere := s.elsewhere ++ [t] }) := by
  -- Only a ticket for a queue can be turned away, and it is if the queue is not there or takes
  -- nothing.
  cases hr : t.route with
  | queue q =>
    have hdeliver : s.deliver t = match s.desks[q]?.bind (·.enter? t) with
        | some d => { s with desks := s.desks.set q d }
        | none => { s with returned := s.returned ++ [t] } := by
      rw [deliver, hr]
    cases hd : s.desks[q]? with
    | none => exact .inr (.inl ⟨q, rfl, by simp [hd], by rw [hdeliver, hd]; rfl⟩)
    | some d =>
      cases he : d.enter? t with
      | none =>
        refine .inr (.inl ⟨q, rfl, ?_, by rw [hdeliver, hd, Option.bind_some, he]⟩)
        intro d' hd'
        rw [← Option.some.inj (hd.symm.trans hd'), he]
      | some d' => exact .inl ⟨q, d, d', rfl, hd, he, by rw [hdeliver, hd, Option.bind_some, he]⟩
  | _ => exact .inr (.inr ⟨by simp, by rw [deliver, hr]⟩)

/-- What is carried is handed over, or nothing is carried at the place. -/
theorem handOver_cases (s : Traffic H) (place : Nat) :
    (s.carried[place]? = none ∧ s.handOver place = s) ∨
      ∃ t, s.carried[place]? = some t ∧
        s.handOver place = { s with carried := s.carried.eraseIdx place }.deliver t := by
  unfold handOver
  cases s.carried[place]? with
  | none => exact .inl ⟨rfl, rfl⟩
  | some t => exact .inr ⟨t, rfl, rfl⟩

/-- Handing over leaves the registry, what was accepted and what was run at once. -/
theorem handOver_frame (s : Traffic H) (place : Nat) :
    (s.handOver place).registry = s.registry ∧ (s.handOver place).admitted = s.admitted ∧
      (s.handOver place).ranAtOnce = s.ranAtOnce := by
  rcases s.handOver_cases place with ⟨-, heq⟩ | ⟨t, -, heq⟩
  · rw [heq]
    exact ⟨rfl, rfl, rfl⟩
  · rw [heq]
    rcases deliver_cases { s with carried := s.carried.eraseIdx place } t with
      ⟨q, d, d', -, -, -, heq'⟩ | ⟨q, -, -, heq'⟩ | ⟨-, heq'⟩
    all_goals rw [heq']; exact ⟨rfl, rfl, rfl⟩

/-- All that happens to the registry is steps of its own. -/
theorem registry_run (s : Traffic H) (moves : List (Move H)) :
    ∃ steps, (s.run moves).registry = s.registry.run steps := by
  induction moves generalizing s with
  | nil => exact ⟨[], rfl⟩
  | cons m moves ih =>
    obtain ⟨steps, hsteps⟩ := ih (s.perform m)
    -- All moves but those of clients leave the registry.
    have hsame : (s.perform m).registry = s.registry →
        ∃ steps, (s.run (m :: moves)).registry = s.registry.run steps := by
      intro h
      exact ⟨steps, by rw [run_cons, hsteps, h]⟩
    cases m with
    | client x =>
      rcases s.client_cases x with ⟨-, -, heq⟩ | ⟨-, i, d, -, -, -, heq⟩ | ⟨-, -, heq⟩
      · exact hsame (by rw [perform, heq])
      · exact ⟨x :: steps, by rw [run_cons, hsteps, perform, heq]; rfl⟩
      · exact ⟨x :: steps, by rw [run_cons, hsteps, perform, heq]; rfl⟩
    | handOver place => exact hsame (s.handOver_frame place).1
    | _ => exact hsame rfl

/-! ## What was accepted -/

/-- Only a client's request that is accepted and needs the UI thread adds a ticket, with the
dispatcher of that moment. -/
theorem admitted_perform (s : Traffic H) (m : Move H) (t : Ticket H) :
    t ∈ (s.perform m).admitted ↔ t ∈ s.admitted ∨ ∃ a now, m = .client (.trigger a now) ∧
      s.registry.accepted? (.trigger a now) = some t.invocation ∧
      t.invocation.flags.needsUiThread = true ∧ s.registry.dispatcher = some t.route ∧
      t.number = s.admitted.length := by
  cases m with
  | client x =>
    show t ∈ (s.client x).admitted ↔ _
    rcases s.client_cases x with ⟨-, hn, heq⟩ | ⟨-, i, d, hi, hu, hd, heq⟩ | ⟨-, hno, heq⟩
    · rw [heq]
      refine ⟨.inl, fun h => h.resolve_right ?_⟩
      rintro ⟨a, now, heq', hi, -⟩
      obtain rfl : x = .trigger a now := by simpa using heq'
      simp [hn] at hi
    · -- A step that issues an invocation is a request, and its ticket is the one that is added.
      obtain ⟨a, now, e, rfl, -⟩ := Registry.accepted?_eq_some_iff.1 hi
      rw [heq, List.mem_append, List.mem_singleton]
      refine or_congr Iff.rfl ⟨?_, ?_⟩
      · rintro rfl
        exact ⟨a, now, rfl, hi, hu, hd, rfl⟩
      · rintro ⟨a', now', heq', hi', -, hd', hn⟩
        obtain ⟨rfl, rfl⟩ : a = a' ∧ now = now' := by simpa using heq'
        obtain ⟨number, route, invocation⟩ := t
        obtain rfl := Option.some.inj (hi.symm.trans hi')
        obtain rfl := Option.some.inj (hd.symm.trans hd')
        obtain rfl := hn
        rfl
    · rw [heq]
      refine ⟨.inl, fun h => h.resolve_right ?_⟩
      rintro ⟨a, now, heq', hi, hu, -⟩
      obtain rfl : x = .trigger a now := by simpa using heq'
      simp [hno _ hi] at hu
  | handOver place =>
    simp [perform, (s.handOver_frame place).2.1]
  | _ => simp [perform, changeDesk]

/-- What only some moves bring about holds after a run if it held before or one of them was made. -/
theorem run_iff {P : Traffic H → Prop} {brings : Traffic H → Move H → Prop}
    (hmove : ∀ s m, P (s.perform m) ↔ P s ∨ brings s m) {s : Traffic H} {moves : List (Move H)} :
    P (s.run moves) ↔
      P s ∨ ∃ before m after, moves = before ++ m :: after ∧ brings (s.run before) m := by
  induction moves generalizing s with
  | nil => simp
  | cons m moves ih =>
    rw [run_cons, ih, hmove, or_assoc]
    -- The one move comes first in the run, or among the others.
    refine or_congr Iff.rfl ⟨?_, ?_⟩
    · rintro (h | ⟨before, m', after, rfl, h⟩)
      · exact ⟨[], m, moves, rfl, h⟩
      · exact ⟨m :: before, m', after, rfl, h⟩
    · rintro ⟨before, m', after, heq, h⟩
      cases before with
      | nil =>
        obtain ⟨rfl, rfl⟩ := List.cons.inj heq
        exact .inl h
      | cons m'' before =>
        obtain ⟨rfl, rfl⟩ := List.cons.inj heq
        exact .inr ⟨before, m', after, rfl, h⟩

/-- What was accepted in a run: the requests that the registry accepted and that need the UI thread,
each with the dispatcher of the registry at that moment and its number. -/
theorem mem_admitted_run {s : Traffic H} {moves : List (Move H)} {t : Ticket H} :
    t ∈ (s.run moves).admitted ↔ t ∈ s.admitted ∨ ∃ before a now after,
      moves = before ++ .client (.trigger a now) :: after ∧
      (s.run before).registry.accepted? (.trigger a now) = some t.invocation ∧
      t.invocation.flags.needsUiThread = true ∧
      (s.run before).registry.dispatcher = some t.route ∧
      t.number = (s.run before).admitted.length := by
  rw [run_iff (P := (t ∈ admitted ·)) fun s m => admitted_perform s m t]
  refine or_congr Iff.rfl ⟨?_, ?_⟩
  · rintro ⟨before, m, after, hmoves, a, now, rfl, h⟩
    exact ⟨before, a, now, after, hmoves, h⟩
  · rintro ⟨before, a, now, after, hmoves, h⟩
    exact ⟨before, _, after, hmoves, a, now, rfl, h⟩

end Traffic

end Switchboard
