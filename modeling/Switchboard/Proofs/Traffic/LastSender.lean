import Switchboard.Proofs.Traffic.Accounting

/-!
# The last sender

A drain that waits for more returns when the last sender of its queue is gone. A client that carries
a ticket to the queue has a sender for as long, so that such a drain outlives every hand-over; and
if the dispatcher of a registry is the only other sender, it returns after the registry was emptied
and not before (`returns_after_shutdown`). By then everything that was accepted for the queue was
put in and has run.

Three things are followed through a run: the dispatcher of the registry, which only installing and
emptying change; the drain of one queue, of which every change of the desk but the beginning of
another drain keeps the kind (`Desk.Kept`); and, by the account of the traffic, what was put in at a
queue to which nothing is carried any more (`Accounted.mem_entered_iff`).
-/

namespace Switchboard

open scoped List

variable {H : Type}

/-! ## Moves that matter here -/

namespace Traffic.Move

/-- Whether a dispatcher is installed. -/
def installs : Move H → Bool
  | .client (.setDispatcher _) => true
  | _ => false

/-- Whether the registry is emptied. -/
def empties : Move H → Bool
  | .client .shutdown => true
  | _ => false

/-- Whether a drain of a queue begins. -/
def drains (q : Nat) : Move H → Bool
  | .beginDrain q' _ => q' == q
  | _ => false

/-- Only a shutdown empties the registry. -/
theorem eq_shutdown_of_empties {m : Move H} (hm : m.empties = true) : m = .client .shutdown := by
  cases m with
  | client x => cases x <;> first | rfl | simp [empties] at hm
  | _ => simp [empties] at hm

end Traffic.Move

/-! ## The drain of a desk -/

namespace Desk

/-- What holds of a new desk and is kept by every change of a desk but the beginning of a drain. -/
structure Kept (P : Desk H → Prop) : Prop where
  new : P {}
  enter {d d' : Desk H} {t : Ticket H} : P d → d.enter? t = some d' → P d'
  take {d : Desk H} : P d → P d.take
  handlerReturns {d : Desk H} : P d → P d.handlerReturns
  endDrain {d : Desk H} (connected : Bool) : P d → P (d.endDrain connected)
  dropReceiver {d : Desk H} : P d → P d.dropReceiver
  dropSender {d : Desk H} : P d → P d.dropSender

/-- No drain of the desk has begun. -/
def Undrained (d : Desk H) : Prop := d.drain = none ∧ d.answers = []

/-- A drain that is going on at the desk is the first one, and waits for more. -/
def FirstBlocking (d : Desk H) : Prop :=
  ∀ drain, d.drain = some drain → drain.kind = .blocking ∧ d.answers = []

/-- Only the beginning of a drain ends that none has begun. -/
theorem kept_undrained : Kept (H := H) Undrained where
  new := ⟨rfl, rfl⟩
  enter h he := by
    obtain ⟨-, rfl⟩ := enter?_eq_some_iff.1 he
    exact h
  take {d} h := by
    rcases d.take_cases with heq | ⟨kind, ran, t, rest, hd, -⟩
    · rw [heq]
      exact h
    · simp [h.1] at hd
  handlerReturns {d} h := by
    rcases d.handlerReturns_cases with heq | ⟨kind, ran, t, hd, -⟩
    · rw [heq]
      exact h
    · simp [h.1] at hd
  endDrain {d} connected h := by
    rcases d.endDrain_cases connected with heq | ⟨drain, hd, -⟩
    · rw [heq]
      exact h
    · simp [h.1] at hd
  dropReceiver {d} h := by
    unfold Desk.dropReceiver
    split_ifs <;> exact h
  dropSender h := h

/-- A drain that is going on stays the first until it ends, and after it none is. -/
theorem kept_firstBlocking : Kept (H := H) FirstBlocking where
  new := by simp [FirstBlocking]
  enter h he := by
    obtain ⟨-, rfl⟩ := enter?_eq_some_iff.1 he
    exact h
  take {d} h := by
    rcases d.take_cases with heq | ⟨kind, ran, t, rest, hd, -, heq⟩
    · rw [heq]
      exact h
    · rw [heq]
      intro drain hdrain
      obtain rfl := Option.some.inj hdrain
      have hfirst := h _ hd
      exact hfirst
  handlerReturns {d} h := by
    rcases d.handlerReturns_cases with heq | ⟨kind, ran, t, hd, heq⟩
    · rw [heq]
      exact h
    · rw [heq]
      intro drain hdrain
      obtain rfl := Option.some.inj hdrain
      have hfirst := h _ hd
      exact hfirst
  endDrain {d} connected h := by
    rcases d.endDrain_cases connected with heq | ⟨drain, -, -, -, -, heq⟩
    · rw [heq]
      exact h
    · rw [heq]
      simp [FirstBlocking]
  dropReceiver {d} h := by
    unfold Desk.dropReceiver
    split_ifs <;> exact h
  dropSender h := h

/-- A drain goes on only where the receiving end is. -/
theorem Sound.receiving {d : Desk H} {q : Nat} (h : d.Sound q) {drain : Drain H}
    (hdrain : d.drain = some drain) : d.queue.receiving = true := by
  cases hr : d.queue.receiving with
  | true => rfl
  | false => simp [(h.closed hr).2] at hdrain

/-- When nothing is running and nothing waits, everything that was put in has run. -/
theorem Sound.entered_eq_ran {d : Desk H} {q : Nat} (h : d.Sound q)
    (hopen : d.queue.receiving = true) (hrunning : d.running = none)
    (hwaiting : d.queue.waiting = []) : d.entered = d.ran := by
  have horder := h.order
  simpa [hrunning, hwaiting, h.kept hopen] using horder

/-- A drain that waits for more is the first if none has begun before. -/
theorem Undrained.beginDrain {d : Desk H} (h : d.Undrained) :
    (d.beginDrain .blocking).FirstBlocking := by
  unfold Desk.beginDrain
  split_ifs
  · intro drain hdrain
    obtain rfl := Option.some.inj hdrain
    exact ⟨rfl, h.2⟩
  · intro drain hd
    simp [h.1] at hd

end Desk

namespace Traffic

variable {s : Traffic H} {q : Nat}

/-- What is kept of desks is kept of that of a queue by every move that begins no drain of it. -/
theorem kept_perform {P : Desk H → Prop} (hP : Desk.Kept P) {m : Move H} (hm : m.drains q = false)
    (h : ∀ d, s.desks[q]? = some d → P d) : ∀ d, (s.perform m).desks[q]? = some d → P d := by
  have hchange : ∀ q' {f : Desk H → Desk H}, (q' = q → ∀ d, P d → P (f d)) →
      ∀ d, (s.changeDesk q' f).desks[q]? = some d → P d := by
    intro q' f hf d hd
    rcases Accounted.getElem?_modify_cases hd with hd | ⟨rfl, d', hd', rfl⟩
    · exact h d hd
    · exact hf rfl d' (h d' hd')
  cases m with
  | client x =>
    rcases s.client_cases x with ⟨-, -, heq⟩ | ⟨-, i, e, -, -, -, heq⟩ | ⟨-, -, heq⟩
    all_goals
      rw [perform, heq]
      exact h
  | handOver place =>
    show ∀ d, (s.handOver place).desks[q]? = some d → P d
    rcases s.handOver_cases place with ⟨-, heq⟩ | ⟨t, -, heq⟩
    · rw [heq]
      exact h
    · rcases deliver_cases { s with carried := s.carried.eraseIdx place } t with
        ⟨q', e, e', -, he, henter, heq'⟩ | ⟨q', -, -, heq'⟩ | ⟨-, heq'⟩
      · rw [heq, heq']
        intro d hd
        rcases List.getElem?_set.symm.trans hd with hd
        split_ifs at hd with hq
        · obtain rfl := Option.some.inj hd
          exact hP.enter (h e (hq ▸ he)) henter
        · exact h d hd
      all_goals
        rw [heq, heq']
        exact h
  | openQueue =>
    intro d hd
    rcases Nat.lt_or_ge q s.desks.length with hq | hq
    · exact h d ((List.getElem?_append_left hq).symm.trans hd)
    · have hd' := (List.getElem?_append_right hq).symm.trans hd
      rw [List.getElem?_singleton] at hd'
      split_ifs at hd'
      obtain rfl := Option.some.inj hd'
      exact hP.new
  | beginDrain q' kind =>
    -- It is the drain of another queue.
    exact hchange q' fun hq => absurd hq (by simpa [Move.drains] using hm)
  | take q' => exact hchange q' fun _ _ => hP.take
  | handlerReturns q' => exact hchange q' fun _ _ => hP.handlerReturns
  | endDrain q' => exact hchange q' fun _ _ => hP.endDrain _
  | dropReceiver q' => exact hchange q' fun _ _ => hP.dropReceiver
  | dropSender q' => exact hchange q' fun _ _ => hP.dropSender

/-- What is kept of desks is kept of that of a queue by a run in which no drain of it begins. -/
theorem kept_run {P : Desk H → Prop} (hP : Desk.Kept P) {moves : List (Move H)}
    (hm : ∀ m ∈ moves, m.drains q = false) (h : ∀ d, s.desks[q]? = some d → P d) :
    ∀ d, (s.run moves).desks[q]? = some d → P d := by
  induction moves generalizing s with
  | nil => exact h
  | cons m moves ih =>
    obtain ⟨hfirst, hrest⟩ := List.forall_mem_cons.1 hm
    exact ih hrest (kept_perform hP hfirst h)

/-- When one drain of a queue has begun in a run, and it waits for more, a drain that is going on is
that one. -/
theorem firstBlocking_of_single {id capacity : Nat} {moves : List (Move H)}
    (hsingle : moves.filter (·.drains q) = [.beginDrain q .blocking]) :
    ∀ d, ((start id capacity).run moves).desks[q]? = some d → d.FirstBlocking := by
  -- Before that drain none has begun, and after it none begins.
  obtain ⟨before, after, rfl, hbefore, -, hafter⟩ := List.filter_eq_cons_iff.1 hsingle
  rw [List.filter_eq_nil_iff] at hafter
  rw [run_append, run_cons]
  have hundrained : ∀ d, ((start id capacity).run before).desks[q]? = some d → d.Undrained :=
    kept_run Desk.kept_undrained (fun m hm => eq_false_of_ne_true (hbefore m hm)) (by simp [start])
  refine kept_run Desk.kept_firstBlocking (fun m hm => eq_false_of_ne_true (hafter m hm)) ?_
  intro d hd
  rcases Accounted.getElem?_modify_cases hd with hd | ⟨-, d', hd', rfl⟩
  · intro drain hdrain
    simp [(hundrained d hd).1] at hdrain
  · exact (hundrained d' hd').beginDrain

/-! ## The dispatcher -/

/-- Where nothing is installed the dispatcher stays, unless the registry is emptied. -/
theorem dispatcher_perform {m : Move H} (hm : m.installs = false) :
    (s.perform m).registry.dispatcher = if m.empties then none else s.registry.dispatcher := by
  cases m with
  | client x =>
    have hstep : (s.registry.perform x).dispatcher =
        if (Move.client x).empties then none else s.registry.dispatcher := by
      rw [Registry.dispatcher_perform]
      cases x with
      | setDispatcher d => simp [Move.installs] at hm
      | _ => rfl
    rcases s.client_cases x with ⟨hp, -, heq⟩ | ⟨-, i, d, -, -, -, heq⟩ | ⟨-, -, heq⟩
    · -- A step that is not permitted would have installed something.
      cases x with
      | setDispatcher d => simp [Move.installs] at hm
      | _ => simp [permits] at hp
    · rw [perform, heq]
      exact hstep
    · rw [perform, heq]
      exact hstep
  | handOver place =>
    rw [perform, (s.handOver_frame place).1]
    rfl
  | _ => rfl

/-- A dispatcher that went away where nothing was installed did so when the registry was emptied. -/
theorem exists_shutdown {moves : List (Move H)} (hinstalls : ∀ m ∈ moves, m.installs = false)
    (hsome : s.registry.dispatcher ≠ none) (hnone : (s.run moves).registry.dispatcher = none) :
    ∃ before after, moves = before ++ .client .shutdown :: after ∧
      ∀ m ∈ before, m.empties = false := by
  induction moves generalizing s with
  | nil => exact absurd hnone hsome
  | cons m moves ih =>
    obtain ⟨hi, hinstalls⟩ := List.forall_mem_cons.1 hinstalls
    cases he : m.empties with
    | true =>
      rw [Move.eq_shutdown_of_empties he]
      exact ⟨[], moves, rfl, List.forall_mem_nil _⟩
    | false =>
      have hstays : (s.perform m).registry.dispatcher ≠ none := by
        rw [dispatcher_perform hi, he]
        exact hsome
      obtain ⟨before, after, rfl, hbefore⟩ := ih hinstalls hstays hnone
      exact ⟨m :: before, after, rfl, List.forall_mem_cons.2 ⟨he, hbefore⟩⟩

/-! ## What is accepted for a queue -/

/-- Without a dispatcher nothing is accepted for the UI thread. -/
theorem admitted_perform_of_none (hnone : s.registry.dispatcher = none) (m : Move H) :
    (s.perform m).admitted = s.admitted := by
  cases m with
  | client x =>
    rcases s.client_cases x with ⟨-, -, heq⟩ | ⟨-, i, d, -, -, hd, heq⟩ | ⟨-, -, heq⟩
    · rw [perform, heq]
    · simp [hnone] at hd
    · rw [perform, heq]
  | handOver place => exact (s.handOver_frame place).2.1
  | _ => rfl

/-- So it is until something is installed. -/
theorem admitted_run_of_none {moves : List (Move H)}
    (hinstalls : ∀ m ∈ moves, m.installs = false) (hnone : s.registry.dispatcher = none) :
    (s.run moves).admitted = s.admitted := by
  induction moves generalizing s with
  | nil => rfl
  | cons m moves ih =>
    obtain ⟨hi, hinstalls⟩ := List.forall_mem_cons.1 hinstalls
    have hstays : (s.perform m).registry.dispatcher = none := by
      rw [dispatcher_perform hi, hnone, ite_self]
    rw [run_cons, ih hinstalls hstays, admitted_perform_of_none hnone]

/-- The tickets differ by their numbers. -/
theorem Accounted.nodup_numbers (h : s.Accounted) : (s.admitted.map (·.number)).Nodup := by
  rw [h.numbers]
  exact List.nodup_range

/-- No ticket was put in twice. -/
theorem Accounted.nodup_entered (h : s.Accounted) {d : Desk H} (hd : s.desks[q]? = some d) :
    (d.entered.map (·.number)).Nodup := by
  have hplaces : (s.places.map (·.number)).Nodup :=
    (h.places.map _).nodup_iff.2 h.nodup_numbers
  have hdesks : (s.desks.flatMap (·.entered)).Sublist s.places :=
    (List.sublist_append_left _ _).trans (List.sublist_append_right _ _)
  have hentered : d.entered.Sublist (s.desks.flatMap (·.entered)) :=
    List.sublist_flatten_of_mem (List.mem_map_of_mem (List.mem_of_getElem? hd))
  exact hplaces.sublist ((hentered.trans hdesks).map _)

/-- When nothing is carried to a queue any more, and its receiving end is there, everything that was
accepted for the queue was put in, and nothing else. -/
theorem Accounted.mem_entered_iff (h : s.Accounted) {d : Desk H} (hd : s.desks[q]? = some d)
    (hopen : d.queue.receiving = true) (hcarried : ∀ t ∈ s.carried, t.route ≠ .queue q)
    {t : Ticket H} : t ∈ d.entered ↔ t ∈ s.admitted ∧ t.route = .queue q := by
  rw [← h.places.mem_iff]
  constructor
  · intro ht
    have hdesks : t ∈ s.desks.flatMap (·.entered) :=
      List.mem_flatMap.2 ⟨d, List.mem_of_getElem? hd, ht⟩
    exact ⟨List.mem_append_right _ (List.mem_append_left _ hdesks), (h.desks q d hd).routed t ht⟩
  · rintro ⟨ht, hroute⟩
    rcases List.mem_append.1 ht with ht | ht
    · exact absurd hroute (hcarried t ht)
    rcases List.mem_append.1 ht with ht | ht
    · obtain ⟨d', hd', ht⟩ := List.mem_flatMap.1 ht
      obtain ⟨q', hq'⟩ := List.getElem?_of_mem hd'
      -- It was put in where it was meant for.
      have hsame := (h.desks q' d' hq').routed t ht
      rw [hroute] at hsame
      obtain rfl := Dispatcher.queue.inj hsame
      obtain rfl := Option.some.inj (hd.symm.trans hq')
      exact ht
    rcases List.mem_append.1 ht with ht | ht
    · obtain ⟨q', hr', d', hd', hclosed⟩ := h.returned t ht
      rw [hroute] at hr'
      obtain rfl := Dispatcher.queue.inj hr'
      obtain rfl := Option.some.inj (hd.symm.trans hd')
      simp [hopen] at hclosed
    · exact absurd hroute (h.elsewhere t ht q)

/-! ## The drain that waits for the last sender -/

/-- From the registry nothing but one queue leads to the UI thread, and so it was whenever something
was accepted. -/
structure OnlyTo (s : Traffic H) (q : Nat) : Prop where
  /-- The dispatcher, if there is one, is a sender of the queue. -/
  dispatcher : ∀ d, s.registry.dispatcher = some d → d = .queue q
  /-- What was accepted is meant for the queue. -/
  admitted : ∀ t ∈ s.admitted, t.route = .queue q

/-- A move that installs nothing makes no other way to the UI thread. -/
theorem OnlyTo.perform (h : s.OnlyTo q) {m : Move H} (hm : m.installs = false) :
    (s.perform m).OnlyTo q where
  dispatcher d hd := by
    rw [dispatcher_perform hm] at hd
    split_ifs at hd
    exact h.dispatcher d hd
  admitted t ht := by
    rcases (admitted_perform s m t).1 ht with ht | ⟨a, now, -, -, -, hd, -⟩
    · exact h.admitted t ht
    · exact h.dispatcher t.route hd

/-- A run in which nothing is installed makes no other way to the UI thread. -/
theorem OnlyTo.run (h : s.OnlyTo q) {moves : List (Move H)}
    (hm : ∀ m ∈ moves, m.installs = false) : (s.run moves).OnlyTo q := by
  induction moves generalizing s with
  | nil => exact h
  | cons m moves ih =>
    obtain ⟨hfirst, hrest⟩ := List.forall_mem_cons.1 hm
    exact ih (h.perform hfirst) hrest

/-- A dispatcher that a client may install is installed. -/
theorem client_install {d : Dispatcher} (hp : s.permits (.setDispatcher d) = true) :
    s.perform (.client (.setDispatcher d)) =
      { s with registry := s.registry.setDispatcher d } :=
  if_pos hp

/-- The way to the queue is the only one when a sender of it has been installed. -/
theorem OnlyTo.install (h : s.OnlyTo q) (hp : s.permits (.setDispatcher (.queue q)) = true) :
    (s.perform (.client (.setDispatcher (.queue q)))).OnlyTo q := by
  rw [client_install hp]
  refine ⟨fun d hd => ?_, h.admitted⟩
  exact (Option.some.inj hd).symm

/-- When everything that is accepted is meant for one queue, nothing is on the way and nothing is
left at the queue, what has run there is what was accepted. -/
theorem OnlyTo.ran_perm (h : s.OnlyTo q) (haccounted : s.Accounted) (hcarried : s.carried = [])
    {d : Desk H} (hd : s.desks[q]? = some d) (hopen : d.queue.receiving = true)
    (hrunning : d.running = none) (hwaiting : d.queue.waiting = []) : d.ran ~ s.admitted := by
  -- Everything that was put in has run, and what was put in is what was accepted for the queue.
  have hran : d.entered = d.ran := (haccounted.desks q d hd).entered_eq_ran hopen hrunning hwaiting
  have hnothing : ∀ t ∈ s.carried, t.route ≠ .queue q :=
    fun t ht => absurd ht (List.eq_nil_iff_forall_not_mem.1 hcarried t)
  have hnodup : (d.ran.map (·.number)).Nodup := hran ▸ haccounted.nodup_entered hd
  refine (List.perm_ext_iff_of_nodup hnodup.of_map haccounted.nodup_numbers.of_map).2 fun t => ?_
  rw [← hran, haccounted.mem_entered_iff hd hopen hnothing]
  exact and_iff_left_of_imp (h.admitted t)

/-- The end of the drain of a queue is a move that can be made. -/
def DrainReturns (s : Traffic H) (q : Nat) : Prop :=
  ∃ d, s.desks[q]? = some d ∧ d.drain.isSome = true ∧ (d.endDrain (s.isConnected q)).drain = none

/-- What it takes for a drain to return, and what the desk is then. -/
theorem DrainReturns.exists_drain (h : s.DrainReturns q) : ∃ d drain, s.desks[q]? = some d ∧
    d.drain = some drain ∧ d.running = none ∧ d.queue.waiting = [] ∧
    (drain.kind = .blocking → s.isConnected q = false) ∧
    (s.perform (.endDrain q)).desks[q]? = some { d with
      drain := none, answers := d.answers ++ [drain.kind.answer drain.ran (s.isConnected q)] } := by
  obtain ⟨d, hd, hgoing, hover⟩ := h
  obtain ⟨drain, hdrain, hrunning, hwaiting, hlast, heq⟩ :=
    (d.endDrain_cases (s.isConnected q)).resolve_left fun hsame => by
      rw [hsame] at hover
      simp [hover] at hgoing
  refine ⟨d, drain, hd, hdrain, by simp [Desk.running, hdrain, hrunning], hwaiting, hlast, ?_⟩
  show (s.desks.modify q _)[q]? = _
  rw [List.getElem?_modify, hd, ← heq]
  simp

/-- The moves before and after a sender of a queue is made the dispatcher of a new registry, when it
is the only dispatcher, and a single drain takes from the queue, which waits for more. The sender of
the queue's maker may be dropped at any time; until then the queue has another sender, and the drain
goes on. -/
structure SoleService (id capacity q : Nat) (opening service : List (Move H)) : Prop where
  /-- The maker of the queue has a sender to install. -/
  sender : ((start id capacity : Traffic H).run opening).permits (.setDispatcher (.queue q)) = true
  /-- Nothing else is installed. -/
  once : ∀ m ∈ opening ++ service, m.installs = false
  /-- One drain begins at the queue, and it waits for more. -/
  single : (opening ++ service).filter (·.drains q) = [.beginDrain q .blocking]

namespace SoleService

variable {id capacity : Nat} {opening service : List (Move H)}

/-- All the moves. -/
def moves (q : Nat) (opening service : List (Move H)) : List (Move H) :=
  opening ++ .client (.setDispatcher (.queue q)) :: service

/-- The queue is the only way to the UI thread in the end. -/
theorem onlyTo (h : SoleService id capacity q opening service) :
    ((start id capacity).run (moves q opening service)).OnlyTo q := by
  obtain ⟨hopening, hservice⟩ := List.forall_mem_append.1 h.once
  have hstart : (start id capacity : Traffic H).OnlyTo q := by
    constructor <;> simp [start, Registry.new]
  rw [moves, run_append, run_cons]
  exact ((hstart.run hopening).install h.sender).run hservice

/-- Only a drain that waits for more goes on at the queue, and it is the first. -/
theorem firstBlocking (h : SoleService id capacity q opening service) {d : Desk H}
    (hd : ((start id capacity).run (moves q opening service)).desks[q]? = some d) :
    d.FirstBlocking := by
  refine firstBlocking_of_single ?_ d hd
  rw [← h.single, moves, List.filter_append, List.filter_append, List.filter_cons_of_neg]
  simp [Move.drains]

/-- When the last sender is gone nothing is carried any more and the registry has no dispatcher. -/
theorem of_disconnected (h : SoleService id capacity q opening service) :
    let s := (start id capacity).run (moves q opening service)
    s.isConnected q = false → s.registry.dispatcher = none ∧ s.carried = [] := by
  intro s hgone
  have haccounted : s.Accounted := (Accounted.start id capacity).run _
  simp only [isConnected, Bool.or_eq_false_iff, List.any_eq_false, beq_iff_eq] at hgone
  obtain ⟨⟨-, hdispatcher⟩, hcarried⟩ := hgone
  constructor
  · refine Option.eq_none_iff_forall_ne_some.2 fun d hd => ?_
    rw [h.onlyTo.dispatcher d hd] at hd
    simp [hd] at hdispatcher
  · refine List.eq_nil_iff_forall_not_mem.2 fun t ht => hcarried t ht ?_
    -- What is carried was accepted, and so it is meant for the queue.
    exact h.onlyTo.admitted t (haccounted.places.mem_iff.1 (List.mem_append_left _ ht))

/-- When the dispatcher is gone the registry was emptied, and nothing was accepted for the UI thread
since. -/
theorem exists_shutdown (h : SoleService id capacity q opening service)
    (hnone : ((start id capacity).run (moves q opening service)).registry.dispatcher = none) :
    ∃ before after, service = before ++ .client .shutdown :: after ∧
      (∀ m ∈ before, m.empties = false) ∧
      ((start id capacity).run (moves q opening service)).admitted =
        ((start id capacity).run (moves q opening before)).admitted := by
  have hservice := (List.forall_mem_append.1 h.once).2
  rw [moves, run_append, run_cons] at hnone
  obtain ⟨before, after, rfl, hbefore⟩ := Traffic.exists_shutdown hservice
    (by rw [client_install h.sender]; exact Option.some_ne_none _) hnone
  refine ⟨before, after, rfl, hbefore, ?_⟩
  have hafter : ∀ m ∈ after, m.installs = false :=
    fun m hm => hservice m (List.mem_append_right _ (List.mem_cons_of_mem _ hm))
  have hmoves : moves q opening (before ++ .client .shutdown :: after) =
      moves q opening before ++ .client .shutdown :: after := by
    rw [moves, moves, List.append_assoc, List.cons_append]
  rw [hmoves, run_append, run_cons, admitted_run_of_none hafter rfl]
  rfl

end SoleService

/-- A registry that is emptied loses nothing that it accepted for the UI thread. Let the sender of a
queue be made the dispatcher of a new registry, as the only one, and let a single drain take from
the queue, which waits for more, while clients, handlers and the drain make their moves in any
order. When that drain returns, the dispatcher has left the registry and nothing is on the way any
more. The registry was emptied, and what was accepted for the UI thread before that, and nothing
else, has run at the queue, each once, whenever it was handed over; the drain, which is the only one
that has returned, answers how many these were. -/
theorem returns_after_shutdown {id capacity q : Nat} {opening service : List (Move H)}
    (h : SoleService id capacity q opening service)
    (hreturns : ((start id capacity).run (SoleService.moves q opening service)).DrainReturns q) :
    let s := (start id capacity).run (SoleService.moves q opening service)
    s.registry.dispatcher = none ∧ s.carried = [] ∧
      ∃ before after, service = before ++ .client .shutdown :: after ∧
        (∀ m ∈ before, m.empties = false) ∧
        ∃ d, (s.perform (.endDrain q)).desks[q]? = some d ∧ d.drain = none ∧
          (∀ t, t ∈ d.ran ↔ ∃ first a now rest,
            SoleService.moves q opening before = first ++ .client (.trigger a now) :: rest ∧
            let s₀ := (start id capacity).run first
            s₀.registry.accepted? (.trigger a now) = some t.invocation ∧
            t.invocation.flags.needsUiThread = true ∧
            s₀.registry.dispatcher = some t.route ∧ t.number = s₀.admitted.length) ∧
          (d.ran.map (·.number)).Nodup ∧
          d.answers = [some d.ran.length] ∧
          d.ran.length =
            ((start id capacity).run (SoleService.moves q opening before)).admitted.length := by
  intro s
  have haccounted : s.Accounted := (Accounted.start id capacity).run _
  obtain ⟨d, drain, hd, hdrain, hrunning, hwaiting, hlast, hover⟩ := hreturns.exists_drain
  obtain ⟨hkind, hanswers⟩ := h.firstBlocking hd drain hdrain
  obtain ⟨hdispatcher, hcarried⟩ := h.of_disconnected (hlast hkind)
  obtain ⟨before, after, hservice, hbefore, hadmitted⟩ := h.exists_shutdown hdispatcher
  -- At the desk is left what has run, and on the way nothing, so all that was accepted is there.
  have hsound := haccounted.desks q d hd
  have hran : d.ran ~ s.admitted :=
    h.onlyTo.ran_perm haccounted hcarried hd (hsound.receiving hdrain) hrunning hwaiting
  have hcounted : d.ran.length = drain.ran := by
    simpa [Desk.count, hdrain, hanswers] using hsound.counted
  refine ⟨hdispatcher, hcarried, before, after, hservice, hbefore, _, hover, rfl, fun t => ?_, ?_,
    ?_, ?_⟩
  · refine hran.mem_iff.trans ?_
    rw [hadmitted, mem_admitted_run]
    exact or_iff_right List.not_mem_nil
  · exact (hran.map _).nodup_iff.2 haccounted.nodup_numbers
  · show d.answers ++ [_] = [some d.ran.length]
    rw [hanswers, hcounted, hkind]
    rfl
  · exact hran.length_eq.trans (congrArg List.length hadmitted)

/-- A queue is made, and an action that needs the UI thread is on offer. -/
def offering : List (Move Unit) :=
  [.openQueue, .client (.register [⟨.fullscreenToggle, (), { uithread := true }⟩])]

/-- Two requests are accepted. The second one is handed over and begins to run; then the registry is
emptied, and the first one is handed over. -/
def lateHandOver : List (Move Unit) :=
  [.dropSender 0, .beginDrain 0 .blocking, .client (.trigger .fullscreenToggle 0),
    .client (.trigger .fullscreenToggle 1), .handOver 1, .take 0, .client .shutdown,
    .handlerReturns 0, .handOver 0, .take 0, .handlerReturns 0]

/-- What was handed over after the registry was emptied has run too, and is counted. -/
theorem late_hand_over_runs :
    let s := (start 0 1).run (SoleService.moves 0 offering lateHandOver)
    s.DrainReturns 0 ∧ s.registry.dispatcher = none ∧
      ∃ d, (s.perform (.endDrain 0)).desks[0]? = some d ∧ d.ran.map (·.number) = [1, 0] ∧
        d.answers = [some 2] := by
  intro s
  have h : SoleService 0 1 0 offering lateHandOver := ⟨rfl, by decide, rfl⟩
  have hreturns : s.DrainReturns 0 := ⟨_, rfl, rfl, rfl⟩
  obtain ⟨hnone, -, -, -, -, -, d, hd, -, -, -, hanswers, -⟩ := returns_after_shutdown h hreturns
  obtain rfl := Option.some.inj hd
  exact ⟨hreturns, hnone, _, rfl, rfl, hanswers⟩

end Traffic

end Switchboard
