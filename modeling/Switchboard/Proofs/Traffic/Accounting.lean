import Switchboard.Proofs.Traffic.Run

/-!
# Every accepted request is accounted for

Whatever the order of the moves, every request that was accepted for the UI thread is in one place:
it is still carried, it waits in the queue whose sender was the dispatcher when it was accepted, it
was taken out and is running or has run, or, only once the receiving end of that queue is gone, it
came back or was discarded (`every_admission_is_accounted`).

`Accounted` is the invariant behind it. Each desk answers for what was put in (`Desk.Sound`), and
the desks, the clients and those who got something back have between them all that was accepted. A
move changes one desk or hands one ticket on, so all but handing over is a matter of one desk
(`Accounted.changeDesk`).
-/

namespace Switchboard.Traffic

open scoped List

variable {H : Type}

/-- Where the tickets are: with the clients, at the desks, or out of the traffic. -/
def places (s : Traffic H) : List (Ticket H) :=
  s.carried ++ (s.desks.flatMap (·.entered) ++ (s.returned ++ s.elsewhere))

/-- Every ticket is accounted for. -/
structure Accounted (s : Traffic H) : Prop where
  /-- Every ticket is in one place. -/
  places : s.places ~ s.admitted
  /-- The tickets are numbered in the order of acceptance. -/
  numbers : s.admitted.map (·.number) = List.range s.admitted.length
  /-- What has a ticket needs the UI thread. -/
  uithread : ∀ t ∈ s.admitted, t.invocation.flags.needsUiThread = true
  /-- Every desk answers for what was put in. -/
  desks : ∀ q (d : Desk H), s.desks[q]? = some d → d.Sound q
  /-- The dispatcher, if it is a sender, is one of a queue that was made. -/
  dispatcher : ∀ q, s.registry.dispatcher = some (.queue q) → q < s.desks.length
  /-- So was the dispatcher to which something is carried. -/
  carried : ∀ t ∈ s.carried, ∀ q, t.route = .queue q → q < s.desks.length
  /-- What came back came from a queue without receiving end. -/
  returned : ∀ t ∈ s.returned, ∃ q, t.route = .queue q ∧ ∃ d : Desk H,
    s.desks[q]? = some d ∧ d.queue.receiving = false
  /-- What went elsewhere was meant for no queue. -/
  elsewhere : ∀ t ∈ s.elsewhere, ∀ q, t.route ≠ .queue q
  /-- A client runs only handlers that do not need the UI thread. -/
  ranAtOnce : ∀ i ∈ s.ranAtOnce, i.flags.needsUiThread = false

namespace Accounted

variable {s : Traffic H}

/-- In the beginning there is nothing to account for. -/
theorem start (id capacity : Nat) : (start id capacity : Traffic H).Accounted where
  places := .refl _
  numbers := rfl
  uithread := by simp [Traffic.start]
  desks := by simp [Traffic.start]
  dispatcher := by simp [Traffic.start, Registry.new]
  carried := by simp [Traffic.start]
  returned := by simp [Traffic.start]
  elsewhere := by simp [Traffic.start]
  ranAtOnce := by simp [Traffic.start]

/-! ## Desks that change -/

/-- The desks of a list with one of them changed. -/
theorem getElem?_modify_cases {α : Type} {xs : List α} {i j : Nat} {f : α → α} {y : α}
    (h : (xs.modify i f)[j]? = some y) :
    xs[j]? = some y ∨ (i = j ∧ ∃ x, xs[j]? = some x ∧ f x = y) := by
  rw [List.getElem?_modify] at h
  obtain ⟨x, hx, rfl⟩ := Option.map_eq_some_iff.1 h
  by_cases hij : i = j
  · exact .inr ⟨hij, x, hx, by rw [if_pos hij]⟩
  · exact .inl (by rw [hx, if_neg hij])

/-- What was put in at the desks does not change with a desk that changes otherwise. -/
theorem flatMap_entered_modify (desks : List (Desk H)) (q : Nat) {f : Desk H → Desk H}
    (hf : ∀ d, (f d).entered = d.entered) :
    (desks.modify q f).flatMap (·.entered) = desks.flatMap (·.entered) := by
  induction desks generalizing q with
  | nil => simp
  | cons d desks ih =>
    cases q with
    | zero => simp [hf]
    | succ q => simp [ih]

/-- A change of one desk that puts nothing in and keeps the desk's account leaves everything
accounted for. -/
theorem changeDesk (h : s.Accounted) (q : Nat) {f : Desk H → Desk H}
    (hf : ∀ d : Desk H, d.GoesOn (f d)) (hentered : ∀ d, (f d).entered = d.entered)
    (hsound : ∀ d : Desk H, d.Sound q → (f d).Sound q) : (s.changeDesk q f).Accounted :=
  { h with
    places := by
      show s.carried ++ ((s.desks.modify q f).flatMap (·.entered) ++ _) ~ s.admitted
      rw [flatMap_entered_modify s.desks q hentered]
      exact h.places
    desks := by
      intro q' d hd
      rcases getElem?_modify_cases hd with hd | ⟨rfl, d', hd', rfl⟩
      · exact h.desks q' d hd
      · exact hsound d' (h.desks _ d' hd')
    dispatcher := fun q' hq' => by
      show q' < (s.desks.modify q f).length
      rw [List.length_modify]
      exact h.dispatcher q' hq'
    carried := fun t ht q' hq' => by
      show q' < (s.desks.modify q f).length
      rw [List.length_modify]
      exact h.carried t ht q' hq'
    returned := by
      intro t ht
      obtain ⟨q', hr, d, hd, hg⟩ := h.returned t ht
      -- What was returned stays so: a receiving end that was dropped does not come back.
      refine ⟨q', hr, if q = q' then f d else d, ?_, ?_⟩
      · show (s.desks.modify q f)[q']? = _
        rw [List.getElem?_modify, hd]
        rfl
      · split_ifs
        · exact (hf d).dropped hg
        · exact hg }

/-- A queue that is made is empty. -/
theorem openQueue (h : s.Accounted) : Accounted { s with desks := s.desks ++ [{}] } :=
  { h with
    places := by
      show s.carried ++ ((s.desks ++ [({} : Desk H)]).flatMap (·.entered) ++ _) ~ s.admitted
      rw [List.flatMap_append]
      simpa [Traffic.places] using h.places
    desks := by
      intro q d hd
      replace hd : (s.desks ++ [({} : Desk H)])[q]? = some d := hd
      -- The new desk stands behind those of before and has nothing to account for.
      rcases Nat.lt_or_ge q s.desks.length with hq | hq
      · rw [List.getElem?_append_left hq] at hd
        exact h.desks q d hd
      · rw [List.getElem?_append_right hq, List.getElem?_singleton] at hd
        split_ifs at hd
        obtain rfl := Option.some.inj hd
        exact Desk.sound_new q
    dispatcher := fun q hq => by
      have := h.dispatcher q hq
      simp only [List.length_append, List.length_singleton]
      omega
    carried := fun t ht q hq => by
      have := h.carried t ht q hq
      simp only [List.length_append, List.length_singleton]
      omega
    returned := by
      intro t ht
      obtain ⟨q, hr, d, hd, hg⟩ := h.returned t ht
      obtain ⟨hq, -⟩ := List.getElem?_eq_some_iff.1 hd
      exact ⟨q, hr, d, (List.getElem?_append_left hq).trans hd, hg⟩ }

/-! ## Steps of clients -/

/-- A registry's step that installs no sender of a queue that was not made leaves everything
accounted for. -/
theorem withRegistry (h : s.Accounted) {r : Registry H Dispatcher}
    (hr : ∀ q, r.dispatcher = some (.queue q) → q < s.desks.length) :
    Accounted { s with registry := r } :=
  { h with dispatcher := hr }

/-- The dispatcher after a permitted step is one of a queue that was made, if it is a sender. -/
theorem dispatcher_perform (h : s.Accounted) {x : Registry.Step H Dispatcher}
    (hp : s.permits x = true) {q : Nat}
    (hd : (s.registry.perform x).dispatcher = some (.queue q)) : q < s.desks.length := by
  rw [Registry.dispatcher_perform] at hd
  cases x with
  | setDispatcher d =>
    -- A sender can be installed only of a queue that was made.
    obtain rfl : d = .queue q := Option.some.inj hd
    rcases hq : s.desks[q]? with _ | d
    · simp [permits, hq] at hp
    · exact (List.getElem?_eq_some_iff.1 hq).1
  | shutdown => simp at hd
  | _ => exact h.dispatcher q hd

/-- What is accepted for the UI thread is carried, under the next number. -/
theorem issue (h : s.Accounted) {i : Invocation H} {d : Dispatcher}
    (hu : i.flags.needsUiThread = true) (hd : s.registry.dispatcher = some d) :
    Accounted { s with admitted := s.admitted ++ [⟨s.admitted.length, d, i⟩],
                       carried := s.carried ++ [⟨s.admitted.length, d, i⟩] } :=
  { h with
    places := by
      refine List.Perm.trans ?_ (h.places.append_right [⟨s.admitted.length, d, i⟩])
      simp only [Traffic.places, List.append_assoc]
      exact (List.perm_append_comm.trans (by simp)).append_left _
    numbers := by simp [h.numbers, List.range_succ]
    uithread := by
      intro t ht
      rcases List.mem_append.1 ht with ht | ht
      · exact h.uithread t ht
      · rw [List.mem_singleton.1 ht]
        exact hu
    carried := by
      intro t ht q hq
      rcases List.mem_append.1 ht with ht | ht
      · exact h.carried t ht q hq
      · rw [List.mem_singleton.1 ht] at hq
        exact h.dispatcher q (by rw [hd]; exact congrArg some hq) }

/-- A client's step leaves everything accounted for. -/
theorem client (h : s.Accounted) (x : Registry.Step H Dispatcher) : (s.client x).Accounted := by
  rcases s.client_cases x with ⟨-, -, heq⟩ | ⟨hp, i, d, -, hu, hd, heq⟩ | ⟨hp, hno, heq⟩
  · rw [heq]
    exact h
  · rw [heq]
    exact (h.issue hu hd).withRegistry fun q => h.dispatcher_perform hp
  · rw [heq]
    have hregistry := h.withRegistry fun q => h.dispatcher_perform hp
    refine { hregistry with ranAtOnce := fun i hi => ?_ }
    rcases List.mem_append.1 hi with hi | hi
    · exact h.ranAtOnce i hi
    · exact hno i (by simpa using hi)

/-! ## Handing over -/

/-- A ticket that the clients hand over is in one place still, if it has come to the others. -/
theorem places_of_handedOver (h : s.Accounted) {place : Nat} {t : Ticket H}
    (ht : s.carried[place]? = some t) {rest : List (Ticket H)}
    (hrest : rest ~ t :: (s.desks.flatMap (·.entered) ++ (s.returned ++ s.elsewhere))) :
    s.carried.eraseIdx place ++ rest ~ s.admitted := by
  obtain ⟨hlt, rfl⟩ := List.getElem?_eq_some_iff.1 ht
  generalize hothers : s.desks.flatMap (·.entered) ++ (s.returned ++ s.elsewhere) = others at hrest
  calc s.carried.eraseIdx place ++ rest
      ~ s.carried.eraseIdx place ++ s.carried[place] :: others := hrest.append_left _
    _ ~ s.carried[place] :: s.carried.eraseIdx place ++ others := List.perm_middle
    _ ~ s.carried ++ others := (List.getElem_cons_eraseIdx_perm hlt).append_right _
    _ ~ s.admitted := by rw [← hothers]; exact h.places

/-- What the clients carry after handing something over is meant for queues that were made. -/
theorem carried_of_handedOver (h : s.Accounted) {place : Nat} {t : Ticket H}
    (ht : t ∈ s.carried.eraseIdx place) {q : Nat} (hr : t.route = .queue q) : q < s.desks.length :=
  h.carried t (List.mem_of_mem_eraseIdx ht) q hr

/-- What was put in at the desks, after one desk has taken in a ticket. -/
theorem flatMap_entered_set {desks : List (Desk H)} {q : Nat} {d d' : Desk H} {t : Ticket H}
    (hd : desks[q]? = some d) (hd' : d'.entered = d.entered ++ [t]) :
    (desks.set q d').flatMap (·.entered) ~ t :: desks.flatMap (·.entered) := by
  induction desks generalizing q with
  | nil => simp at hd
  | cons x desks ih =>
    cases q with
    | zero =>
      obtain rfl : x = d := by simpa using hd
      simp only [List.set_cons_zero, List.flatMap_cons, hd', List.append_assoc,
        List.singleton_append]
      exact List.perm_middle
    | succ q =>
      simp only [List.set_cons_succ, List.flatMap_cons]
      calc x.entered ++ (desks.set q d').flatMap (·.entered)
          ~ x.entered ++ t :: desks.flatMap (·.entered) :=
            (ih (by simpa using hd)).append_left _
        _ ~ t :: (x.entered ++ desks.flatMap (·.entered)) := List.perm_middle

/-- A ticket that its queue takes in is at the desk of that queue. -/
theorem putIn (h : s.Accounted) {place q : Nat} {t : Ticket H} {d d' : Desk H}
    (ht : s.carried[place]? = some t) (hr : t.route = .queue q) (hd : s.desks[q]? = some d)
    (he : d.enter? t = some d') :
    Accounted { s with carried := s.carried.eraseIdx place, desks := s.desks.set q d' } := by
  obtain ⟨hopen, hd'⟩ := Desk.enter?_eq_some_iff.1 he
  have hlt := (List.getElem?_eq_some_iff.1 hd).1
  have hget : ∀ q', (s.desks.set q d')[q']? = if q = q' then some d' else s.desks[q']? := by
    intro q'
    rw [List.getElem?_set]
    split_ifs <;> rfl
  refine { h with places := ?_, desks := ?_, dispatcher := ?_, carried := ?_, returned := ?_ }
  · refine h.places_of_handedOver ht ?_
    show (s.desks.set q d').flatMap (·.entered) ++ _ ~ _
    rw [← List.cons_append]
    exact (flatMap_entered_set hd (by rw [← hd'])).append_right _
  · intro q' x hx
    rw [hget] at hx
    split_ifs at hx with hq
    · obtain rfl := hq
      obtain rfl := Option.some.inj hx
      exact (h.desks q d hd).enter? hr he
    · exact h.desks q' x hx
  · intro q' hq'
    show q' < (s.desks.set q d').length
    rw [List.length_set]
    exact h.dispatcher q' hq'
  · intro u hu q' hq'
    show q' < (s.desks.set q d').length
    rw [List.length_set]
    exact h.carried_of_handedOver hu hq'
  · -- The desk that has taken something in has its receiving end, unlike those that gave back.
    intro u hu
    obtain ⟨q', hr', x, hx, hg⟩ := h.returned u hu
    refine ⟨q', hr', x, ?_, hg⟩
    show (s.desks.set q d')[q']? = some x
    rw [hget, if_neg]
    · exact hx
    · rintro rfl
      obtain rfl := Option.some.inj (hd.symm.trans hx)
      simp [hopen] at hg

/-- A ticket that its queue does not take in came back from a queue without receiving end. -/
theorem giveBack (h : s.Accounted) {place q : Nat} {t : Ticket H}
    (ht : s.carried[place]? = some t) (hr : t.route = .queue q)
    (he : ∀ d, s.desks[q]? = some d → d.enter? t = none) :
    Accounted { s with carried := s.carried.eraseIdx place, returned := s.returned ++ [t] } := by
  -- The queue was made, since its sender was the dispatcher.
  obtain ⟨d, hd⟩ : ∃ d, s.desks[q]? = some d :=
    ⟨_, List.getElem?_eq_getElem (h.carried t (List.mem_of_getElem? ht) q hr)⟩
  refine { h with places := ?_, carried := fun u hu q' => h.carried_of_handedOver hu,
                  returned := ?_ }
  · refine h.places_of_handedOver ht ?_
    show _ ++ (s.returned ++ [t] ++ s.elsewhere) ~ _
    rw [List.append_assoc, List.singleton_append, ← List.append_assoc, ← List.append_assoc]
    exact List.perm_middle
  · intro u hu
    rcases List.mem_append.1 hu with hu | hu
    · exact h.returned u hu
    · rw [List.mem_singleton.1 hu]
      exact ⟨q, hr, d, hd, Desk.enter?_eq_none_iff.1 (he d hd)⟩

/-- A ticket that is meant for no queue goes elsewhere. -/
theorem goElsewhere (h : s.Accounted) {place : Nat} {t : Ticket H}
    (ht : s.carried[place]? = some t) (hr : ∀ q, t.route ≠ .queue q) :
    Accounted { s with carried := s.carried.eraseIdx place, elsewhere := s.elsewhere ++ [t] } := by
  refine { h with places := ?_, carried := fun u hu q' => h.carried_of_handedOver hu,
                  elsewhere := ?_ }
  · refine h.places_of_handedOver ht ?_
    show _ ++ (s.returned ++ (s.elsewhere ++ [t])) ~ _
    rw [← List.append_assoc, ← List.append_assoc, ← List.append_assoc]
    exact List.perm_append_singleton _ _
  · intro u hu
    rcases List.mem_append.1 hu with hu | hu
    · exact h.elsewhere u hu
    · rw [List.mem_singleton.1 hu]
      exact hr

/-- What is handed over is at a queue, returned, or elsewhere. -/
theorem handOver (h : s.Accounted) (place : Nat) : (s.handOver place).Accounted := by
  rcases s.handOver_cases place with ⟨-, heq⟩ | ⟨t, ht, heq⟩
  · rw [heq]
    exact h
  · rw [heq]
    rcases deliver_cases { s with carried := s.carried.eraseIdx place } t with
      ⟨q, d, d', hr, hd, he, heq'⟩ | ⟨q, hr, he, heq'⟩ | ⟨hr, heq'⟩
    · rw [heq']
      exact h.putIn ht hr hd he
    · rw [heq']
      exact h.giveBack ht hr he
    · rw [heq']
      exact h.goElsewhere ht hr

/-! ## Every move -/

/-- Every move leaves everything accounted for. -/
theorem perform (h : s.Accounted) (m : Move H) : (s.perform m).Accounted := by
  cases m with
  | client step => exact h.client step
  | handOver place => exact h.handOver place
  | openQueue => exact h.openQueue
  | beginDrain q kind =>
    exact h.changeDesk q (.beginDrain · kind) (by simp) fun d hd => hd.beginDrain kind
  | take q => exact h.changeDesk q .take (by simp) fun d hd => hd.take
  | handlerReturns q =>
    exact h.changeDesk q .handlerReturns (by simp) fun d hd => hd.handlerReturns
  | endDrain q => exact h.changeDesk q (.endDrain · _) (by simp) fun d hd => hd.endDrain _
  | dropReceiver q => exact h.changeDesk q .dropReceiver (by simp) fun d hd => hd.dropReceiver
  | dropSender q => exact h.changeDesk q .dropSender (by simp) fun d hd => hd.dropSender

/-- Every run leaves everything accounted for. -/
theorem run (h : s.Accounted) (moves : List (Move H)) : (s.run moves).Accounted := by
  induction moves generalizing s with
  | nil => exact h
  | cons m moves ih => exact ih (h.perform m)

end Accounted

/-! ## Desks over time -/

/-- A desk goes on from itself with every move. -/
theorem goesOn_perform {s : Traffic H} {q : Nat} {d : Desk H} (hd : s.desks[q]? = some d)
    (m : Move H) : ∃ d', (s.perform m).desks[q]? = some d' ∧ d.GoesOn d' := by
  -- A move changes no desk, or one of them, or takes a ticket in at one.
  have hsame : ∀ s' : Traffic H, s'.desks = s.desks →
      ∃ d', s'.desks[q]? = some d' ∧ d.GoesOn d' :=
    fun s' h => ⟨d, by rw [h]; exact hd, .refl d⟩
  have hchange : ∀ q' {f : Desk H → Desk H}, (∀ d : Desk H, d.GoesOn (f d)) →
      ∃ d', (s.changeDesk q' f).desks[q]? = some d' ∧ d.GoesOn d' := by
    intro q' f hf
    refine ⟨if q' = q then f d else d, ?_, ?_⟩
    · show (s.desks.modify q' f)[q]? = _
      rw [List.getElem?_modify, hd]
      rfl
    · split_ifs
      · exact hf d
      · exact .refl d
  cases m with
  | client x =>
    rcases s.client_cases x with ⟨-, -, heq⟩ | ⟨-, i, e, -, -, -, heq⟩ | ⟨-, -, heq⟩
    all_goals exact hsame _ (by rw [perform, heq])
  | handOver place =>
    show ∃ d', (s.handOver place).desks[q]? = some d' ∧ d.GoesOn d'
    rcases s.handOver_cases place with ⟨-, heq⟩ | ⟨t, -, heq⟩
    · exact hsame _ (by rw [heq])
    · rcases deliver_cases { s with carried := s.carried.eraseIdx place } t with
        ⟨q', e, e', -, he, hent, heq'⟩ | ⟨q', -, -, heq'⟩ | ⟨-, heq'⟩
      · rw [heq, heq']
        by_cases hq : q' = q
        · subst hq
          obtain rfl : e = d := Option.some.inj (he.symm.trans hd)
          refine ⟨e', ?_, .enter? hent⟩
          exact List.getElem?_set_self (List.getElem?_eq_some_iff.1 hd).1
        · exact ⟨d, (List.getElem?_set_ne hq).trans hd, .refl d⟩
      · exact hsame _ (by rw [heq, heq'])
      · exact hsame _ (by rw [heq, heq'])
  | openQueue =>
    exact ⟨d, (List.getElem?_append_left (List.getElem?_eq_some_iff.1 hd).1).trans hd, .refl d⟩
  | beginDrain q' kind => exact hchange q' (.beginDrain · kind)
  | take q' => exact hchange q' .take
  | handlerReturns q' => exact hchange q' .handlerReturns
  | endDrain q' => exact hchange q' (.endDrain · _)
  | dropReceiver q' => exact hchange q' .dropReceiver
  | dropSender q' => exact hchange q' .dropSender

/-- A desk goes on in every run. -/
theorem goesOn_run {s : Traffic H} {q : Nat} {d : Desk H} (hd : s.desks[q]? = some d)
    (moves : List (Move H)) : ∃ d', (s.run moves).desks[q]? = some d' ∧ d.GoesOn d' := by
  induction moves generalizing s d with
  | nil => exact ⟨d, hd, .refl d⟩
  | cons m moves ih =>
    obtain ⟨d₁, hd₁, hgo₁⟩ := goesOn_perform hd m
    obtain ⟨d₂, hd₂, hgo₂⟩ := ih hd₁
    exact ⟨d₂, hd₂, hgo₁.trans hgo₂⟩

/-- Every request that is accepted for the UI thread is accounted for, whatever the order in which
clients, handlers and drains make their moves. It has a ticket with the dispatcher of the moment in
which it was accepted. Every ticket is in one place and only once: with the client that carries it,
waiting at a desk, running there, run or discarded there, returned, or elsewhere. At the desk of a
queue there are only tickets of that queue, in the order in which they were put in: those that ran,
the one that is running, those that wait. Nothing is discarded and nothing comes back while the
receiving end is there; the drains count what ran; and what was put in or ran stays so. Tickets go
elsewhere only if the dispatcher was no sender of a queue, and clients run only handlers that do not
need the UI thread. -/
theorem every_admission_is_accounted (id capacity : Nat) (moves : List (Move H)) :
    let s : Traffic H := (start id capacity).run moves
    (∀ t, t ∈ s.admitted ↔ ∃ before a now after,
      moves = before ++ .client (.trigger a now) :: after ∧
      let s₀ : Traffic H := (start id capacity).run before
      s₀.registry.accepted? (.trigger a now) = some t.invocation ∧
      t.invocation.flags.needsUiThread = true ∧ s₀.registry.dispatcher = some t.route ∧
      t.number = s₀.admitted.length) ∧
    (s.admitted.map (·.number)).Nodup ∧
    s.carried ++ (s.desks.flatMap (fun d =>
      d.ran ++ d.running.toList ++ d.queue.waiting ++ d.discarded) ++
        (s.returned ++ s.elsewhere)) ~ s.admitted ∧
    (∀ q (d : Desk H), s.desks[q]? = some d →
      (∀ t ∈ d.entered, t.route = .queue q) ∧
      d.entered = d.ran ++ d.running.toList ++ d.queue.waiting ++ d.discarded ∧
      (d.queue.receiving = true → d.discarded = [] ∧ ∀ t ∈ s.returned, t.route ≠ .queue q) ∧
      d.ran.length = d.count ∧
      ∀ later, ∃ d', (s.run later).desks[q]? = some d' ∧ d.GoesOn d') ∧
    (∀ t ∈ s.elsewhere, ∀ q, t.route ≠ .queue q) ∧
    (∀ i ∈ s.ranAtOnce, i.flags.needsUiThread = false) := by
  intro s
  have h : s.Accounted := (Accounted.start id capacity).run moves
  refine ⟨?_, ?_, ?_, ?_, h.elsewhere, h.ranAtOnce⟩
  · intro t
    rw [mem_admitted_run]
    simp [start]
  · rw [h.numbers]
    exact List.nodup_range
  · -- At every desk what was put in is what has become of it, in the same order.
    have horder : s.desks.flatMap (fun d =>
        d.ran ++ d.running.toList ++ d.queue.waiting ++ d.discarded) =
          s.desks.flatMap (·.entered) := by
      refine List.flatMap_congr fun d hd => ?_
      obtain ⟨q, hq⟩ := List.getElem?_of_mem hd
      exact (h.desks q d hq).order.symm
    rw [horder]
    exact h.places
  · intro q d hd
    have hsound := h.desks q d hd
    refine ⟨hsound.routed, hsound.order, fun hopen => ⟨hsound.kept hopen, ?_⟩, hsound.counted,
      goesOn_run hd⟩
    -- A ticket of this queue that came back would mean that the receiving end is gone.
    intro t ht hr
    obtain ⟨q', hr', d', hd', hg⟩ := h.returned t ht
    rw [hr] at hr'
    obtain rfl : q = q' := by simpa using hr'
    obtain rfl := Option.some.inj (hd.symm.trans hd')
    simp [hopen] at hg

end Switchboard.Traffic
