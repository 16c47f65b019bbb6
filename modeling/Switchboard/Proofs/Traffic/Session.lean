import Switchboard.Proofs.Frontend.Acts
import Switchboard.Proofs.Traffic.Drains

/-!
# Sessions of a frontend in the traffic

Every session of a frontend is a run of the traffic (`session_is_traffic`): between acts no drain is
going on and nothing is being carried, and each act is some moves. So what is proved of every run of
the traffic is true of every session, and the registry of a session has taken steps of its own only
(`session_registry`), so that what is proved of every run of a registry holds in it.
-/

namespace Switchboard.Traffic

open FrontendM Frontend

variable {T : Type} {f : Frontend T} {s : Traffic (Handler T)}

/-- No drain is going on. -/
def Idle {H : Type} (s : Traffic H) : Prop := ∀ p ∈ s.drains, p.1 = none

/-- In idle traffic no desk has a drain going on. -/
theorem Idle.drain_eq_none {H : Type} {s : Traffic H} (hidle : s.Idle) {d : Desk H}
    (hd : d ∈ s.desks) : d.drain = none :=
  hidle (d.drain, d.answers) (List.mem_map.2 ⟨d, hd, rfl⟩)

/-- The traffic stays idle if a drain that was going on has ended. -/
theorem Idle.of_set {H : Type} {s s' : Traffic H} (hidle : s.Idle) {q : Nat}
    {answers : List (Option Nat)} (h : s'.drains = s.drains.set q (none, answers)) : s'.Idle := by
  intro p hp
  rw [h] at hp
  rcases List.mem_or_eq_of_mem_set hp with hp | rfl
  · exact hidle p hp
  · rfl

/-- Setting a dispatcher is a client's step, if it is permitted. -/
theorem Shows.setDispatcher (h : Shows f s) {d : Dispatcher}
    (hp : s.permits (.setDispatcher d) = true) :
    Shows ((setDispatcher d).after f) (s.run [.client (.setDispatcher d)]) ∧
      (s.run [.client (.setDispatcher d)]).drains = s.drains := by
  obtain ⟨hafter, hresult⟩ :=
    after_useRegistry?_some (fun r => (r.hasDispatcher, r.setDispatcher d)) h.registry
  rw [run_cons, run_nil, perform, client_of_permits (by simp) hp]
  refine ⟨?_, rfl⟩
  simp only [FrontendM.setDispatcher, after_bind, hafter, hresult]
  exact ⟨rfl, h.queues, h.carried⟩

/-- A queue is made. -/
theorem Shows.openQueue (h : Shows f s) (hidle : s.Idle) :
    Shows (newQueue.after f) (s.run [.openQueue]) ∧ (s.run [.openQueue]).Idle := by
  have hdesks : (s.run [.openQueue]).desks = s.desks ++ [({} : Desk (Handler T))] := rfl
  refine ⟨⟨h.registry, ?_, h.carried⟩, fun p hp => ?_⟩
  · have hqueues : (newQueue.after f).queues = f.queues ++ [({} : UiQueue _)] := rfl
    rw [hqueues, hdesks, h.queues, List.map_append]
    rfl
  · have hdrains : (s.run [.openQueue]).drains = s.drains ++ [(none, [])] := List.map_append
    rw [hdrains, List.mem_append, List.mem_singleton] at hp
    rcases hp with hp | rfl
    · exact hidle p hp
    · rfl

/-- A queue of the frontend is changed as its desk is. -/
theorem Shows.changeQueue (h : Shows f s) (hidle : s.Idle) {q : Nat}
    {change : UiQueue (Invocation (Handler T)) → UiQueue (Invocation (Handler T))}
    {changeDesk : Desk (Handler T) → Desk (Handler T)}
    (hqueue : ∀ d, d.drain = none →
      (changeDesk d).queue.map (·.invocation) = change (d.queue.map (·.invocation)))
    (hdrain : ∀ d, d.drain = none → (changeDesk d).drain = none) :
    Shows ((changeQueue? q change).after f) (s.changeDesk q changeDesk) ∧
      (s.changeDesk q changeDesk).Idle := by
  refine ⟨⟨h.registry, ?_, h.carried⟩, fun p hp => ?_⟩
  -- Desk by desk: the one that is changed is idle, so its queue is changed as that of the frontend.
  · show f.queues.modify q change = (s.desks.modify q changeDesk).map _
    rw [h.queues]
    apply List.ext_getElem?
    intro n
    simp only [List.getElem?_map, List.getElem?_modify]
    cases hd : s.desks[n]? with
    | none => rfl
    | some d =>
      by_cases hn : q = n
      · simp [hn, hqueue d (hidle.drain_eq_none (List.mem_of_getElem? hd))]
      · simp [hn]
  · obtain ⟨d', hd', rfl⟩ := List.mem_map.1 hp
    obtain ⟨n, hn⟩ := List.mem_iff_getElem?.1 hd'
    rcases Accounted.getElem?_modify_cases hn with hd | ⟨-, d, hd, rfl⟩
    · exact hidle.drain_eq_none (List.mem_of_getElem? hd)
    · exact hdrain d (hidle.drain_eq_none (List.mem_of_getElem? hd))

/-- A queue whose receiving end is there is drained. -/
theorem Shows.drained (h : Shows f s) (hidle : s.Idle) {q : Nat} (kind : DrainKind)
    (hopen : (f.openQueue? q).isSome = true)
    (hends : kind = .blocking → f.isConnected q = false) :
    ∃ moves, Shows ((FrontendM.drain q).after f) (s.run moves) ∧ (s.run moves).Idle := by
  obtain ⟨queue, hqueue⟩ := Option.isSome_iff_exists.1 hopen
  obtain ⟨hq, hr⟩ := Option.filter_eq_some_iff.1 hqueue
  obtain ⟨d, hd, -⟩ := h.queue hq
  have hdrain : s.drains[q]? = some (none, d.answers) :=
    getElem?_drains.2 ⟨d, hd, hidle.drain_eq_none (List.mem_of_getElem? hd), rfl⟩
  obtain ⟨moves, hg, hdrains⟩ := h.drain kind hq hr hdrain fun hk => isConnected_drain (hends hk)
  exact ⟨moves, hg, hidle.of_set hdrains⟩

/-- The sender of a queue's maker is held in both or in neither. -/
theorem Shows.senderHeld_eq (h : Shows f s) (q : Nat) :
    f.queues[q]?.any (·.senderHeld) = s.desks[q]?.any (·.queue.senderHeld) := by
  rw [h.queues, List.getElem?_map, Option.any_map]
  rfl

/-- Setting a dispatcher, for which a sender of a queue has to be held. -/
theorem Shows.trySetDispatcher (h : Shows f s) (d : Dispatcher) :
    ∃ moves, Shows ((Act.setDispatcher d).run.after f) (s.run moves) ∧
      (s.run moves).drains = s.drains := by
  cases hp : s.permits (.setDispatcher d) with
  | true =>
    -- The sender is held by the queue's maker in the frontend exactly if it is in the traffic.
    have hafter : (Act.setDispatcher d).run.after f = (FrontendM.setDispatcher d).after f := by
      cases d with
      | queue q =>
        have hheld : f.queues[q]?.any (·.senderHeld) = true := (h.senderHeld_eq q).trans hp
        simp [Act.run, setQueueDispatcher?, hheld]
      | _ => rfl
    rw [hafter]
    exact ⟨_, h.setDispatcher hp⟩
  | false =>
    have hafter : (Act.setDispatcher d).run.after f = f := by
      cases d with
      | queue q =>
        have hheld : f.queues[q]?.any (·.senderHeld) = false := (h.senderHeld_eq q).trans hp
        simp [Act.run, setQueueDispatcher?, hheld]
      | _ => simp [permits] at hp
    rw [hafter]
    exact ⟨[], h, rfl⟩

/-- Whatever a frontend is asked to do is moves of the traffic, and in the end no drain is going
on. -/
theorem Shows.act (h : Shows f s) (hidle : s.Idle) (x : Act T) :
    ∃ moves, Shows (x.run.after f) (s.run moves) ∧ (s.run moves).Idle := by
  by_cases hx : x.isClients = true
  -- Clients' acts are moves of clients, which begin and end no drain.
  · obtain ⟨moves, hm, hg⟩ := closed_follows.act hx f s h
    refine ⟨moves, hg, ?_⟩
    unfold Idle
    rw [drains_run hm]
    exact hidle
  · cases x with
    | setDispatcher d =>
      obtain ⟨moves, hg, hdrains⟩ := h.trySetDispatcher d
      refine ⟨moves, hg, ?_⟩
      unfold Idle
      rw [hdrains]
      exact hidle
    | newQueue => exact ⟨_, h.openQueue hidle⟩
    | dropQueue q =>
      refine ⟨[.dropReceiver q], h.changeQueue hidle (fun d hd => ?_) fun d hd => ?_⟩
      · rw [Desk.dropReceiver, hd]
        rfl
      · rw [Desk.dropReceiver, hd]
        rfl
    | dropSender q => exact ⟨[.dropSender q], h.changeQueue hidle (fun _ _ => rfl) fun _ hd => hd⟩
    | runPending q =>
      rcases after_runPending? q f with heq | ⟨hopen, heq⟩
      · rw [heq]
        exact ⟨[], h, hidle⟩
      · rw [heq]
        exact h.drained hidle .pending hopen (by simp)
    | runTimeout q =>
      rcases after_runTimeout? q f with heq | ⟨hopen, heq⟩
      · rw [heq]
        exact ⟨[], h, hidle⟩
      · rw [heq]
        exact h.drained hidle .timeout hopen (by simp)
    | runBlocking q =>
      rcases after_runBlocking? q f with heq | ⟨hopen, hgone, heq⟩
      · rw [heq]
        exact ⟨[], h, hidle⟩
      · rw [heq]
        exact h.drained hidle .blocking hopen fun _ => hgone
    | _ => simp [Act.isClients] at hx

/-- Every session of a frontend is a run of the traffic. -/
theorem session_is_traffic (capacity : Nat) (setup : Setup) (acts : List (Act T)) :
    ∃ moves, Shows ((Frontend.start capacity setup).play acts) ((start 0 capacity).run moves) := by
  -- Between two acts no drain is going on, so each of them starts from idle traffic.
  have hplay : ∀ (f : Frontend T) (s : Traffic (Handler T)), Shows f s → s.Idle →
      ∃ moves, Shows (f.play acts) (s.run moves) := by
    induction acts with
    | nil => exact fun f s h _ => ⟨[], h⟩
    | cons x acts ih =>
      intro f s h hidle
      obtain ⟨moves, hg, hidle'⟩ := h.act hidle x
      obtain ⟨moves', hk⟩ := ih _ _ hg hidle'
      refine ⟨moves ++ moves', ?_⟩
      rw [run_append]
      exact hk
  exact hplay _ _ ⟨rfl, rfl, rfl⟩ (by simp [Idle, drains, start])

/-- The registry of a session has taken steps of its own only. -/
theorem session_registry (capacity : Nat) (setup : Setup) (acts : List (Act T)) :
    ∃ steps, ((Frontend.start capacity setup).play acts).registry =
      some ((Registry.new 0 capacity).run steps) := by
  obtain ⟨moves, h⟩ := session_is_traffic capacity setup acts
  obtain ⟨steps, hsteps⟩ := registry_run (start 0 capacity) moves
  exact ⟨steps, by rw [h.registry, hsteps]; rfl⟩

end Switchboard.Traffic
