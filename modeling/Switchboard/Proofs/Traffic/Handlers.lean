import Switchboard.Proofs.Frontend.Drains
import Switchboard.Proofs.Traffic.Accounting

/-!
# Frontends in the traffic

What a frontend does to its registry and its queues is moves of the traffic: a request is a step of
the registry and the handing over of what it has accepted, one after the other, and what handlers do
is the moves of clients (`closed_follows`). So what is proved of every run of the traffic holds in
every frontend; that requests of a frontend hand over at once is one of the orders in which clients
may do it.
-/

namespace Switchboard

/-- A queue with everything that waits in it replaced. -/
def UiQueue.map {I J : Type} (g : I → J) (q : UiQueue I) : UiQueue J where
  waiting := q.waiting.map g
  receiving := q.receiving
  senderHeld := q.senderHeld

/-- It makes no difference whether a thing is changed before it is sent or with all that waits. -/
theorem UiQueue.send?_map {I J : Type} (g : I → J) (q : UiQueue I) (i : I) :
    (q.map g).send? (g i) = (q.send? i).map (·.map g) := by
  unfold UiQueue.send?
  cases hr : q.receiving <;> simp [UiQueue.map, hr]

namespace Traffic

open FrontendM Frontend

variable {T : Type}

/-- The traffic shows a frontend: it has its registry and its queues, and nothing is being
carried. -/
structure Shows (f : Frontend T) (s : Traffic (Handler T)) : Prop where
  /-- The registry is the same. -/
  registry : f.registry = some s.registry
  /-- So are the queues, but for the tickets. -/
  queues : f.queues = s.desks.map fun d => d.queue.map (·.invocation)
  /-- Everything has been handed over. -/
  carried : s.carried = []

/-- A move of a client. -/
def Move.isClients {H : Type} : Move H → Bool
  | .client _ | .handOver _ => true
  | _ => false

/-- Clients have come from one frontend to the other by moves in the traffic. -/
def Follows (f g : Frontend T) : Prop :=
  ∀ s : Traffic (Handler T), Shows f s →
    ∃ moves : List (Move (Handler T)), (∀ m ∈ moves, m.isClients = true) ∧ Shows g (s.run moves)

/-- A frontend with the same registry and the same queues follows the same traffic. -/
theorem Follows.of_eq {f g : Frontend T} (hr : g.registry = f.registry)
    (hq : g.queues = f.queues) : Follows f g :=
  fun _ h => ⟨[], by simp, hr.trans h.registry, hq.trans h.queues, h.carried⟩

/-- The moves of one computation come before those of the next. -/
theorem Follows.trans {f g k : Frontend T} (h : Follows f g) (h' : Follows g k) :
    Follows f k := by
  intro s hs
  obtain ⟨moves, hm, hg⟩ := h s hs
  obtain ⟨moves', hm', hk⟩ := h' _ hg
  refine ⟨moves ++ moves', fun m hmem => ?_, ?_⟩
  · rcases List.mem_append.1 hmem with hmem | hmem
    · exact hm m hmem
    · exact hm' m hmem
  · rw [run_append]
    exact hk

/-- A step that is no request is permitted if it installs no sender that is not held, and then it is
all that happens. -/
theorem client_of_permits {H : Type} {s : Traffic H} {x : Registry.Step H Dispatcher}
    (hx : ∀ a now, x ≠ .trigger a now) (hp : s.permits x = true) :
    s.client x = { s with registry := s.registry.perform x } := by
  cases x with
  | trigger a now => exact absurd rfl (hx a now)
  | _ => simp [client, hp]

/-- A plain step is permitted. -/
theorem permits_of_isPlain {H : Type} (s : Traffic H) {x : Registry.Step H Dispatcher}
    (hx : x.isPlain = true) : s.permits x = true := by
  cases x with
  | setDispatcher d => simp [Registry.Step.isPlain] at hx
  | _ => rfl

/-- A plain step of the registry is a client's move, and nothing else moves. -/
theorem chained_follows : Chained (T := T) Follows where
  refl _ := .of_eq rfl rfl
  trans h h' := h.trans h'
  aside _ hr hq _ := .of_eq hr hq
  registry {f r x} hr hx := by
    intro s hs
    obtain rfl : r = s.registry := Option.some.inj (hr.symm.trans hs.registry)
    refine ⟨[.client x], by simp [Move.isClients], ?_⟩
    have hne : ∀ a now, x ≠ .trigger a now := by
      rintro a now rfl
      simp [Registry.Step.isPlain] at hx
    rw [run_cons, run_nil, perform, client_of_permits hne (s.permits_of_isPlain hx)]
    exact ⟨rfl, hs.queues, hs.carried⟩

/-! ## Requests -/

variable {f : Frontend T} {s : Traffic (Handler T)}

/-- A request that is accepted and runs at once is a step of the registry. -/
theorem Shows.ranAtOnce (h : Shows f s) {a : Action} {now : Nat} {i : Invocation (Handler T)}
    (hv : (s.registry.judge a now).1 = .accepted i none) :
    Shows { f with registry := some (s.registry.perform (.trigger a now)) }
      (s.perform (.client (.trigger a now))) := by
  have heq : s.perform (.client (.trigger a now)) =
      { s with registry := s.registry.perform (.trigger a now),
               ranAtOnce := s.ranAtOnce ++ [i] } := by
    rw [perform, client_trigger, hv]
    rfl
  rw [heq]
  exact ⟨rfl, h.queues, h.carried⟩

/-- A request that is accepted for the UI thread and then handed over. -/
theorem Shows.handedOver (h : Shows f s) {a : Action} {now : Nat} {i : Invocation (Handler T)}
    {d : Dispatcher} (hv : (s.registry.judge a now).1 = .accepted i (some d)) :
    ∃ t : Ticket (Handler T), t.route = d ∧ t.invocation = i ∧
      ∃ s₁ : Traffic (Handler T), s₁.registry = s.registry.perform (.trigger a now) ∧
        s₁.desks = s.desks ∧ s₁.carried = [] ∧
        s.run [.client (.trigger a now), .handOver 0] = s₁.deliver t := by
  refine ⟨⟨s.admitted.length, d, i⟩, rfl, rfl,
    { s with registry := s.registry.perform (.trigger a now),
             admitted := s.admitted ++ [⟨s.admitted.length, d, i⟩], carried := [] },
    rfl, rfl, rfl, ?_⟩
  have heq : s.perform (.client (.trigger a now)) =
      { s with registry := s.registry.perform (.trigger a now),
               admitted := s.admitted ++ [⟨s.admitted.length, d, i⟩],
               carried := [⟨s.admitted.length, d, i⟩] } := by
    rw [perform, client_trigger, hv]
    simp [judged, h.carried]
  rw [run_cons, heq]
  rfl

/-- What a queue of the frontend takes in, the desk of that queue takes in. -/
theorem Shows.send? (h : Shows f s) (q : Nat) (t : Ticket (Handler T)) :
    f.queues[q]?.bind (·.send? t.invocation) =
      (s.desks[q]?.bind (·.enter? t)).map fun d => d.queue.map (·.invocation) := by
  rw [h.queues, List.getElem?_map]
  cases s.desks[q]? with
  | none => rfl
  | some d =>
    show (d.queue.map (·.invocation)).send? t.invocation = _
    rw [UiQueue.send?_map, Option.bind_some, Desk.enter?, Option.map_map]
    rfl

/-- What a frontend does with something that it dispatches is delivering it and the moves of
clients. -/
theorem Shows.dispatch (h : Shows f s) {run : Invocation (Handler T) → FrontendM T Unit}
    (hrun : ∀ i, Keeps Follows (run i)) (t : Ticket (Handler T)) :
    ∃ moves : List (Move (Handler T)), (∀ m ∈ moves, m.isClients = true) ∧
      Shows ((dispatch run t.invocation t.route).after f) ((s.deliver t).run moves) := by
  rcases deliver_cases s t with ⟨q, d, d', hr, hd, he, heq⟩ | ⟨q, hr, he, heq⟩ | ⟨hr, heq⟩
  · have hsend : f.queues[q]?.bind (·.send? t.invocation) =
        some (d'.queue.map (·.invocation)) := by
      rw [h.send?, hd, Option.bind_some, he]
      rfl
    -- The frontend's queue takes in what the desk does.
    refine ⟨[], by simp, ?_⟩
    rcases after_send q t.invocation f with ⟨queue, hqueue, hafter⟩ | ⟨hnone, -⟩
    · obtain rfl := Option.some.inj (hsend.symm.trans hqueue)
      rw [hr, heq, run_nil]
      show Shows ((send q t.invocation).after f) _
      rw [hafter]
      refine ⟨h.registry, ?_, h.carried⟩
      rw [h.queues]
      exact (List.map_set ..).symm
    · simp [hsend] at hnone
  · have hsend : f.queues[q]?.bind (·.send? t.invocation) = none := by
      rw [h.send?]
      cases hd : s.desks[q]? with
      | none => rfl
      | some d => rw [Option.bind_some, he d hd]; rfl
    have hshows : Shows f (s.deliver t) := by
      rw [heq]
      exact ⟨h.registry, h.queues, h.carried⟩
    -- No one will take it out, so a client finishes it; that is a move of the traffic too.
    rcases after_send q t.invocation f with ⟨queue, hqueue, -⟩ | ⟨-, hafter⟩
    · simp [hsend] at hqueue
    · rw [hr]
      show ∃ moves : List (Move (Handler T)), _ ∧ Shows ((send q t.invocation).after f) _
      rw [hafter]
      exact (chained_follows.bind (chained_follows.notify (.queueClosed t.invocation.action))
        fun _ => chained_follows.finish t.invocation) f _ hshows
  · have hshows : Shows f (s.deliver t) := by
      rw [heq]
      exact ⟨h.registry, h.queues, h.carried⟩
    -- What is meant for no queue is up to the dispatcher.
    cases hd : t.route with
    | queue q => exact absurd hd (hr q)
    | park => exact chained_follows.park t.invocation f _ hshows
    | runNow => exact hrun t.invocation f _ hshows
    | release => exact chained_follows.finish t.invocation f _ hshows
    | discard => exact chained_follows.pure () f _ hshows

/-- Whatever handlers and dispatchers do to the registry and the queues is moves of clients. -/
theorem closed_follows : Closed (T := T) Follows :=
  { chained_follows with
    count := fun f => .of_eq rfl rfl
    request := by
      intro run hrun a f
      -- An accepted request is a step of the registry, and, for the UI thread, a hand-over at once.
      rcases after_triggerWith run a f with ⟨-, heq⟩ | ⟨r, why, -, -, heq⟩ |
        ⟨r, i, route, hr, hv, heq⟩
      · rw [heq]
        exact chained_follows.refl f
      · rw [heq]
        exact chained_follows.notify _ f
      · intro s hs
        obtain rfl : r = s.registry := Option.some.inj (hr.symm.trans hs.registry)
        rw [heq]
        cases route with
        | none =>
          obtain ⟨moves, hm, hg⟩ := chained_follows.bind
            (chained_follows.notify (.running a)) (fun _ => hrun i) _ _ (hs.ranAtOnce hv)
          exact ⟨_ :: moves, List.forall_mem_cons.2 ⟨rfl, hm⟩, hg⟩
        | some d =>
          obtain ⟨t, rfl, rfl, s₁, hregistry, hdesks, hcarried, htwo⟩ := hs.handedOver hv
          have hshows : Shows ((notify (.dispatching a)).after { f with
              registry := some (s.registry.perform (.trigger a f.now)) }) s₁ :=
            ⟨congrArg some hregistry.symm, by rw [hdesks]; exact hs.queues, hcarried⟩
          obtain ⟨moves, hm, hg⟩ := hshows.dispatch hrun t
          refine ⟨[.client (.trigger a f.now), .handOver 0] ++ moves, ?_, ?_⟩
          · intro m hmem
            rcases List.mem_append.1 hmem with hmem | hmem
            · rcases List.mem_pair.1 hmem with rfl | rfl <;> rfl
            · exact hm m hmem
          · rw [run_append, htwo]
            exact hg }

end Traffic

end Switchboard
