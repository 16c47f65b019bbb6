import Switchboard.Proofs.Traffic.Handlers

/-!
# Drains of a frontend in the traffic

When a frontend drains a queue it takes out one invocation after the other and runs its handler,
which may do anything that clients do. In the traffic that is a drain of the desk of the queue, from
its beginning to its end, with the moves of clients in between (`Shows.drain`). The count that the
frontend returns is the answer of the drain.
-/

namespace Switchboard.Traffic

open FrontendM Frontend

/-! ## The drains of the traffic -/

section

variable {H : Type} {s : Traffic H}

/-- For every queue the drain that is going on and the answers of those that ended. -/
def drains (s : Traffic H) : List (Option (Drain H) × List (Option Nat)) :=
  s.desks.map fun d => (d.drain, d.answers)

/-- To change the desk of a queue is to put another in its place. -/
theorem changeDesk_eq {q : Nat} {d : Desk H} (hd : s.desks[q]? = some d) (f : Desk H → Desk H) :
    s.changeDesk q f = { s with desks := s.desks.set q (f d) } := by
  have hmodify : s.desks.modify q f = s.desks.set q (f d) := by
    apply List.ext_getElem?
    intro j
    rw [List.getElem?_modify, List.getElem?_set]
    split_ifs with hj hlt
    · rw [← hj, hd]
      rfl
    · exact absurd (List.getElem?_eq_some_iff.1 hd).1 hlt
    · cases s.desks[j]? <;> rfl
  rw [changeDesk, hmodify]

/-- A desk that is replaced brings its own drains. -/
theorem drains_set (s : Traffic H) (q : Nat) (d : Desk H) :
    drains { s with desks := s.desks.set q d } = s.drains.set q (d.drain, d.answers) :=
  List.map_set ..

/-- Moves of clients leave the drains as they are. -/
theorem drains_perform {m : Move H} (hm : m.isClients = true) :
    (s.perform m).drains = s.drains := by
  cases m with
  | client x =>
    rcases s.client_cases x with ⟨-, -, heq⟩ | ⟨-, i, d, -, -, -, heq⟩ | ⟨-, -, heq⟩
    · rw [perform, heq]
    · rw [perform, heq]
      rfl
    · rw [perform, heq]
      rfl
  | handOver place =>
    show (s.handOver place).drains = s.drains
    rcases s.handOver_cases place with ⟨-, heq⟩ | ⟨t, -, heq⟩
    · rw [heq]
    · rcases deliver_cases { s with carried := s.carried.eraseIdx place } t with
        ⟨q, d, d', -, hd, he, heq'⟩ | ⟨q, -, -, heq'⟩ | ⟨-, heq'⟩
      -- A desk that takes a ticket in keeps its drain, so the list of drains has the same at its
      -- place.
      · obtain ⟨-, rfl⟩ := Desk.enter?_eq_some_iff.1 he
        obtain ⟨hlt, hget⟩ := List.getElem?_eq_some_iff.1 hd
        rw [heq, heq']
        show (s.desks.set q _).map _ = s.desks.map _
        rw [List.map_set, ← hget]
        exact (congrArg _ (List.getElem_map _).symm).trans
          (List.set_getElem_self (by simpa using hlt))
      · rw [heq, heq']
        rfl
      · rw [heq, heq']
        rfl
  | _ => simp [Move.isClients] at hm

/-- Clients begin and end no drains. -/
theorem drains_run {moves : List (Move H)} (hm : ∀ m ∈ moves, m.isClients = true) :
    (s.run moves).drains = s.drains := by
  induction moves generalizing s with
  | nil => rfl
  | cons m moves ih =>
    obtain ⟨hfirst, hrest⟩ := List.forall_mem_cons.1 hm
    rw [run_cons, ih hrest, drains_perform hfirst]

/-- What a desk's drain and answers are told by the drains of the traffic. -/
theorem getElem?_drains {q : Nat} {drain : Option (Drain H)} {answers : List (Option Nat)} :
    s.drains[q]? = some (drain, answers) ↔
      ∃ d, s.desks[q]? = some d ∧ d.drain = drain ∧ d.answers = answers := by
  unfold drains
  rw [List.getElem?_map, Option.map_eq_some_iff]
  simp only [Prod.mk.injEq]

end

/-! ## The drain of a frontend -/

variable {T : Type} {f : Frontend T} {s : Traffic (Handler T)} {q : Nat}

/-- What waits in a queue of the frontend waits at the desk. -/
theorem Shows.queue (h : Shows f s) {queue : UiQueue (Invocation (Handler T))}
    (hq : f.queues[q]? = some queue) :
    ∃ d, s.desks[q]? = some d ∧ queue = d.queue.map (·.invocation) := by
  rw [h.queues, List.getElem?_map, Option.map_eq_some_iff] at hq
  obtain ⟨d, hd, rfl⟩ := hq
  exact ⟨d, hd, rfl⟩

/-- What waits at a desk waits in the queue of the frontend. -/
theorem Shows.waiting_eq (h : Shows f s) {d : Desk (Handler T)} (hd : s.desks[q]? = some d) :
    f.waiting q = d.queue.waiting.map (·.invocation) := by
  unfold Frontend.waiting
  rw [h.queues, List.getElem?_map, hd]
  rfl

/-- The frontend and the traffic agree on whether a sender is left. -/
theorem Shows.isConnected_eq (h : Shows f s) (q : Nat) : s.isConnected q = f.isConnected q := by
  unfold Traffic.isConnected Frontend.isConnected feeds
  rw [h.carried, h.registry, h.queues, List.getElem?_map, Option.any_map]
  simp [UiQueue.map]

/-- A change of a desk that does not touch its queue is not seen by the frontend. -/
theorem Shows.setDesk (h : Shows f s) {d d' : Desk (Handler T)} (hd : s.desks[q]? = some d)
    (hq : d'.queue = d.queue) : Shows f { s with desks := s.desks.set q d' } := by
  refine ⟨h.registry, ?_, h.carried⟩
  obtain ⟨hlt, hget⟩ := List.getElem?_eq_some_iff.1 hd
  rw [h.queues]
  show _ = (s.desks.set q d').map _
  rw [List.map_set, hq, ← hget]
  refine (List.set_getElem_self (by simpa using hlt)).symm.trans ?_
  rw [List.getElem_map]

/-- The drain takes out what has waited longest. -/
theorem Shows.take (h : Shows f s) {kind : DrainKind} {k : Nat} {answers : List (Option Nat)}
    (hd : s.drains[q]? = some (some ⟨kind, k, none⟩, answers))
    {i : Invocation (Handler T)} {queue : UiQueue (Invocation (Handler T))}
    {rest : List (Invocation (Handler T))} (hq : f.queues[q]? = some queue)
    (hw : queue.waiting = i :: rest) :
    ∃ t, Shows (takenOut f q i { queue with waiting := rest }) (s.perform (.take q)) ∧
      (s.perform (.take q)).drains = s.drains.set q (some ⟨kind, k, some t⟩, answers) := by
  obtain ⟨d, hdesk, rfl⟩ := h.queue hq
  obtain ⟨d', hdesk', hdrain, rfl⟩ := getElem?_drains.1 hd
  obtain rfl : d = d' := Option.some.inj (hdesk.symm.trans hdesk')
  obtain ⟨t, rest', hwait, rfl, rfl⟩ : ∃ t rest', d.queue.waiting = t :: rest' ∧
      t.invocation = i ∧ rest'.map (·.invocation) = rest := List.map_eq_cons_iff.1 hw
  -- The desk is taken apart as far as the drain looks at it.
  have htake : s.perform (.take q) = { s with desks := s.desks.set q { d with
      queue := { d.queue with waiting := rest' }, drain := some ⟨kind, k, some t⟩ } } := by
    rw [perform, changeDesk_eq hdesk]
    obtain ⟨⟨waiting, receiving, senderHeld⟩, drain, entered, ran, discarded, answers⟩ := d
    obtain rfl : drain = some ⟨kind, k, none⟩ := hdrain
    obtain rfl : waiting = t :: rest' := hwait
    rfl
  rw [htake]
  refine ⟨t, ⟨h.registry, ?_, h.carried⟩, drains_set s q _⟩
  show f.queues.set q _ = (s.desks.set q _).map _
  rw [h.queues, List.map_set]
  rfl

/-- What the drain is running returns. -/
theorem Shows.handlerReturns (h : Shows f s) {kind : DrainKind} {k : Nat}
    {t : Ticket (Handler T)} {answers : List (Option Nat)}
    (hd : s.drains[q]? = some (some ⟨kind, k, some t⟩, answers)) :
    Shows f (s.perform (.handlerReturns q)) ∧
      (s.perform (.handlerReturns q)).drains =
        s.drains.set q (some ⟨kind, k + 1, none⟩, answers) := by
  obtain ⟨d, hdesk, hdrain, rfl⟩ := getElem?_drains.1 hd
  have hreturn : s.perform (.handlerReturns q) = { s with desks := s.desks.set q { d with
      drain := some ⟨kind, k + 1, none⟩, ran := d.ran ++ [t] } } := by
    rw [perform, changeDesk_eq hdesk, Desk.handlerReturns, hdrain]
  rw [hreturn]
  exact ⟨h.setDesk hdesk rfl, drains_set s q _⟩

/-- One turn of a drain: what has waited longest is taken out, its handler does what clients do, and
returns. -/
theorem Shows.turn (h : Shows f s) {kind : DrainKind} {k : Nat} {answers : List (Option Nat)}
    (hd : s.drains[q]? = some (some ⟨kind, k, none⟩, answers))
    {i : Invocation (Handler T)} {queue : UiQueue (Invocation (Handler T))}
    {rest : List (Invocation (Handler T))} (hq : f.queues[q]? = some queue)
    (hw : queue.waiting = i :: rest) :
    ∃ moves, Shows ((runInvocation true i).after (takenOut f q i { queue with waiting := rest }))
        (s.run moves) ∧
      (s.run moves).drains = s.drains.set q (some ⟨kind, k + 1, none⟩, answers) := by
  obtain ⟨t, htaken, hdrains⟩ := h.take hd hq hw
  obtain ⟨moves, hm, hg⟩ := closed_follows.runInvocation true i _ _ htaken
  -- Whatever the handler did, the drain is still running the ticket.
  have hrunning : ((s.perform (.take q)).run moves).drains[q]? =
      some (some ⟨kind, k, some t⟩, answers) := by
    rw [drains_run hm, hdrains, List.getElem?_set_self (List.getElem?_eq_some_iff.1 hd).1]
  obtain ⟨hreturned, hdrains'⟩ := hg.handlerReturns hrunning
  refine ⟨.take q :: (moves ++ [.handlerReturns q]), ?_, ?_⟩
  · rw [run_cons, run_append]
    exact hreturned
  · rw [run_cons, run_append, run_cons, run_nil, hdrains', drains_run hm, hdrains, List.set_set]

/-- Without a move a drain has run no more handlers. -/
theorem Shows.stay (h : Shows f s) {kind : DrainKind} {k : Nat} {answers : List (Option Nat)}
    (hd : s.drains[q]? = some (some ⟨kind, k, none⟩, answers)) :
    ∃ moves, Shows f (s.run moves) ∧
      (s.run moves).drains = s.drains.set q (some ⟨kind, k + 0, none⟩, answers) := by
  refine ⟨[], h, ?_⟩
  obtain ⟨hlt, hget⟩ := List.getElem?_eq_some_iff.1 hd
  rw [run_nil, Nat.add_zero, ← hget]
  exact (List.set_getElem_self hlt).symm

/-- A round of a drain runs as many handlers as it is meant to, if that many wait. -/
theorem Shows.round (h : Shows f s) {kind : DrainKind} {k n : Nat} {answers : List (Option Nat)}
    (hd : s.drains[q]? = some (some ⟨kind, k, none⟩, answers)) (hn : n ≤ (f.waiting q).length) :
    ∃ moves, Shows ((runHead q n).after f) (s.run moves) ∧
      (s.run moves).drains = s.drains.set q (some ⟨kind, k + n, none⟩, answers) := by
  induction n generalizing f s k with
  | zero => exact h.stay hd
  | succ n ih =>
    rcases after_runHead_succ q n f with ⟨hw, -⟩ | ⟨i, queue, rest, hq, hw, heq⟩
    · rw [hw] at hn
      simp at hn
    · obtain ⟨moves, hg, hdrains⟩ := h.turn hd hq hw
      rw [heq]
      generalize hf' : (runInvocation true i).after
        (takenOut f q i { queue with waiting := rest }) = f' at hg
      have hd' : (s.run moves).drains[q]? = some (some ⟨kind, k + 1, none⟩, answers) := by
        rw [hdrains, List.getElem?_set_self (List.getElem?_eq_some_iff.1 hd).1]
      -- The handler has taken nothing out of the queue.
      have hn' : n ≤ (f'.waiting q).length := by
        have htaken : (takenOut f q i { queue with waiting := rest }).queues[q]? =
            some { queue with waiting := rest } :=
          List.getElem?_set_self (List.getElem?_eq_some_iff.1 hq).1
        obtain ⟨more, hmore⟩ := closed_queuesGrow.runInvocation true i _ q _ htaken
        rw [hf'] at hmore
        have hlen : (f.waiting q).length = rest.length + 1 := by simp [waiting, hq, hw]
        have hlen' : (f'.waiting q).length = rest.length + more.length := by
          simp [waiting, hmore]
        omega
      obtain ⟨moves', hg', hdrains'⟩ := ih hg hd' hn'
      refine ⟨moves ++ moves', ?_, ?_⟩
      · rw [run_append]
        exact hg'
      · rw [run_append, hdrains', hdrains, List.set_set]
        congr 4
        omega

/-- The rounds of a drain run as many handlers as they count. -/
theorem Shows.rounds (h : Shows f s) {kind : DrainKind} {k : Nat} {answers : List (Option Nat)}
    (hd : s.drains[q]? = some (some ⟨kind, k, none⟩, answers)) (rounds : Nat) :
    ∃ moves, Shows ((drainRounds q rounds).after f) (s.run moves) ∧
      (s.run moves).drains =
        s.drains.set q (some ⟨kind, k + (drainRounds q rounds).result f, none⟩, answers) := by
  induction rounds generalizing f s k with
  | zero => exact h.stay hd
  | succ rounds ih =>
    -- A round may leave what its handlers have sent, and then another one follows.
    by_cases hw : f.waiting q = []
    · obtain ⟨hafter, hresult⟩ := after_drainRounds_of_empty hw (rounds + 1)
      rw [hafter, hresult]
      exact h.stay hd
    · obtain ⟨hafter, hresult⟩ := after_drainRounds_succ hw rounds
      rw [hafter, hresult]
      obtain ⟨moves, hg, hdrains⟩ := h.round hd (Nat.le_refl _)
      have hd' : (s.run moves).drains[q]? =
          some (some ⟨kind, k + (f.waiting q).length, none⟩, answers) := by
        rw [hdrains, List.getElem?_set_self (List.getElem?_eq_some_iff.1 hd).1]
      obtain ⟨moves', hg', hdrains'⟩ := ih hg hd'
      refine ⟨moves ++ moves', ?_, ?_⟩
      · rw [run_append]
        exact hg'
      · rw [run_append, hdrains', hdrains, List.set_set, Nat.add_assoc]

/-- A drain begins at a desk whose receiving end is there and that no drain is going on at. -/
theorem Shows.beginDrain (h : Shows f s) (kind : DrainKind)
    {queue : UiQueue (Invocation (Handler T))} {answers : List (Option Nat)}
    (hq : f.queues[q]? = some queue) (hopen : queue.receiving = true)
    (hd : s.drains[q]? = some (none, answers)) :
    Shows f (s.perform (.beginDrain q kind)) ∧
      (s.perform (.beginDrain q kind)).drains =
        s.drains.set q (some ⟨kind, 0, none⟩, answers) := by
  obtain ⟨d, hdesk, rfl⟩ := h.queue hq
  obtain ⟨d', hdesk', hdrain, rfl⟩ := getElem?_drains.1 hd
  obtain rfl : d = d' := Option.some.inj (hdesk.symm.trans hdesk')
  replace hopen : d.queue.receiving = true := hopen
  have hbegin : s.perform (.beginDrain q kind) =
      { s with desks := s.desks.set q { d with drain := some ⟨kind, 0, none⟩ } } := by
    rw [perform, changeDesk_eq hdesk, Desk.beginDrain, if_pos ⟨hopen, by rw [hdrain]; rfl⟩]
  rw [hbegin]
  exact ⟨h.setDesk hdesk rfl, drains_set s q _⟩

/-- A drain ends when nothing waits and, if it waits for more, no sender is left. -/
theorem Shows.endDrain (h : Shows f s) {kind : DrainKind} {k : Nat} {answers : List (Option Nat)}
    (hd : s.drains[q]? = some (some ⟨kind, k, none⟩, answers)) (hw : f.waiting q = [])
    (hends : kind = .blocking → f.isConnected q = false) :
    Shows f (s.perform (.endDrain q)) ∧
      (s.perform (.endDrain q)).drains =
        s.drains.set q (none, answers ++ [kind.answer k (f.isConnected q)]) := by
  obtain ⟨d, hdesk, hdrain, rfl⟩ := getElem?_drains.1 hd
  rw [h.waiting_eq hdesk, List.map_eq_nil_iff] at hw
  have hend : s.perform (.endDrain q) = { s with desks := s.desks.set q { d with
      drain := none, answers := d.answers ++ [kind.answer k (f.isConnected q)] } } := by
    rw [perform, changeDesk_eq hdesk, Desk.endDrain, hdrain, h.isConnected_eq]
    dsimp only
    rw [if_pos ⟨rfl, by rw [hw]; rfl, hends⟩]
  rw [hend]
  exact ⟨h.setDesk hdesk rfl, drains_set s q _⟩

/-- A drain of a frontend is a drain of the desk from its beginning to its end, if the queue has its
receiving end, no drain of it is going on, and for one that waits for more no sender is left in the
end. The drain answers what the frontend is given, or nothing if that is nothing and no sender is
left. -/
theorem Shows.drain (h : Shows f s) (kind : DrainKind) {queue : UiQueue (Invocation (Handler T))}
    {answers : List (Option Nat)} (hq : f.queues[q]? = some queue) (hopen : queue.receiving = true)
    (hd : s.drains[q]? = some (none, answers))
    (hends : kind = .blocking → ((drain q).after f).isConnected q = false) :
    ∃ moves, Shows ((drain q).after f) (s.run moves) ∧
      (s.run moves).drains = s.drains.set q (none, answers ++
        [kind.answer ((drain q).result f) (((drain q).after f).isConnected q)]) := by
  have hlt := (List.getElem?_eq_some_iff.1 hd).1
  obtain ⟨hbegun, hdrains⟩ := h.beginDrain kind hq hopen hd
  obtain ⟨moves, hg, hdrains'⟩ := hbegun.rounds
    (by rw [hdrains, List.getElem?_set_self hlt]) (f.setup.scriptLimit + 2)
  rw [hdrains, List.set_set, Nat.zero_add] at hdrains'
  obtain ⟨hended, hdrains''⟩ := hg.endDrain
    (by rw [hdrains', List.getElem?_set_self hlt]) (drain_empties q f) hends
  refine ⟨.beginDrain q kind :: (moves ++ [.endDrain q]), ?_, ?_⟩
  · rw [run_cons, run_append]
    exact hended
  · rw [run_cons, run_append, run_cons, run_nil, hdrains'', hdrains', List.set_set]
    rfl

end Switchboard.Traffic
