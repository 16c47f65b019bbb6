import Switchboard.Proofs.Frontend.Executions
import Switchboard.Proofs.Registry.FirstMapping
import Switchboard.Proofs.Traffic.Accounting

/-!
# The first mapping is the one that runs

An invocation may run long after its request was accepted: others offer mappings in the meantime, set
dispatchers, empty the table and fill it again. Still the handler that runs is that of the first
mapping that was on offer for the action when the request was accepted, and so are the flags, which
decide whether it runs at once or goes to the dispatcher (`first_mapping_runs`).

What was issued never changes on its way (`mem_admitted_run`, `mem_ranAtOnce_run`), so all depends on
what the registry issues, and that is `Registry.firstFor?_of_accepted`.
-/

namespace Switchboard.Traffic

variable {H : Type}

/-! ## What is on offer -/

/-- The mappings that have been offered since the table was last emptied, after one more move. -/
def Move.onOffer (ms : List (Mapping H)) : Move H → List (Mapping H)
  | .client x => x.onOffer ms
  | _ => ms

/-- The mappings that have been offered since the table was last emptied, in order. -/
def offered (moves : List (Move H)) : List (Mapping H) := moves.foldl Move.onOffer []

/-- The registry has been offered what was offered in the traffic. -/
theorem exists_steps (id capacity : Nat) (moves : List (Move H)) :
    ∃ steps, ((start id capacity).run moves).registry = (Registry.new id capacity).run steps ∧
      Registry.offered steps = offered moves := by
  induction moves using List.reverseRecOn with
  | nil => exact ⟨[], rfl, rfl⟩
  | append_singleton moves m ih =>
    obtain ⟨steps, hrun, hoffered⟩ := ih
    rw [run_append, offered, List.foldl_concat]
    change ∃ steps, (((start id capacity).run moves).perform m).registry = _ ∧
      Registry.offered steps = m.onOffer (offered moves)
    generalize (start id capacity).run moves = s at hrun
    cases m with
    | client x =>
      have hstep (hr : (s.client x).registry = s.registry.perform x) :
          ∃ steps, (s.client x).registry = (Registry.new id capacity).run steps ∧
            Registry.offered steps = x.onOffer (offered moves) := by
        refine ⟨steps ++ [x], ?_, ?_⟩
        · rw [hr, hrun, Registry.run_append]
          rfl
        · rw [Registry.offered, List.foldl_concat]
          exact congrArg (Registry.Step.onOffer · x) hoffered
      rcases s.client_cases x with ⟨hp, -, heq⟩ | ⟨-, i, d, -, -, -, heq⟩ | ⟨-, -, heq⟩
      · -- A step that is not permitted sets a dispatcher, and offers nothing.
        have hsame : x.onOffer (offered moves) = offered moves := by
          cases x with
          | setDispatcher d => rfl
          | _ => simp [permits] at hp
        exact ⟨steps, (congrArg Traffic.registry heq).trans hrun, hoffered.trans hsame.symm⟩
      · exact hstep (congrArg Traffic.registry heq)
      · exact hstep (congrArg Traffic.registry heq)
    | handOver place => exact ⟨steps, (s.handOver_frame place).1.trans hrun, hoffered⟩
    | _ => exact ⟨steps, hrun, hoffered⟩

/-! ## What runs at once -/

/-- Only a client's request that is accepted and does not need the UI thread is run at once. -/
theorem ranAtOnce_perform (s : Traffic H) (m : Move H) (i : Invocation H) :
    i ∈ (s.perform m).ranAtOnce ↔ i ∈ s.ranAtOnce ∨ ∃ a now, m = .client (.trigger a now) ∧
      s.registry.accepted? (.trigger a now) = some i ∧ i.flags.needsUiThread = false := by
  cases m with
  | client x =>
    -- A step that issues an invocation is a request.
    have hissues : (∃ a now, Move.client x = .client (.trigger a now) ∧
        s.registry.accepted? (.trigger a now) = some i ∧ i.flags.needsUiThread = false) ↔
          s.registry.accepted? x = some i ∧ i.flags.needsUiThread = false := by
      constructor
      · rintro ⟨a, now, heq, hi, hu⟩
        obtain rfl := Move.client.inj heq
        exact ⟨hi, hu⟩
      · rintro ⟨hi, hu⟩
        obtain ⟨a, now, e, rfl, -⟩ := Registry.accepted?_eq_some_iff.1 hi
        exact ⟨a, now, rfl, hi, hu⟩
    rw [hissues]
    show i ∈ (s.client x).ranAtOnce ↔ _
    rcases s.client_cases x with ⟨-, hn, heq⟩ | ⟨-, j, d, hj, hu, -, heq⟩ | ⟨-, hno, heq⟩
    · rw [heq, hn]
      simp
    · rw [heq, hj]
      refine ⟨.inl, fun h => h.resolve_right ?_⟩
      rintro ⟨hi, hi'⟩
      obtain rfl := Option.some.inj hi
      exact Bool.false_ne_true (hi'.symm.trans hu)
    · rw [heq]
      show i ∈ s.ranAtOnce ++ _ ↔ _
      rw [List.mem_append, Option.mem_toList]
      exact or_congr Iff.rfl ⟨fun hi => ⟨hi, hno i hi⟩, And.left⟩
  | handOver place =>
    simp [perform, (s.handOver_frame place).2.2]
  | _ => simp [perform, changeDesk]

/-- What was run at once was accepted in some request of the run. -/
theorem mem_ranAtOnce_run {s : Traffic H} {moves : List (Move H)} {i : Invocation H} :
    i ∈ (s.run moves).ranAtOnce ↔ i ∈ s.ranAtOnce ∨ ∃ before a now after,
      moves = before ++ .client (.trigger a now) :: after ∧
      (s.run before).registry.accepted? (.trigger a now) = some i ∧
      i.flags.needsUiThread = false := by
  rw [run_iff (P := (i ∈ ranAtOnce ·)) fun s m => ranAtOnce_perform s m i]
  refine or_congr Iff.rfl ⟨?_, ?_⟩
  · rintro ⟨before, m, after, hmoves, a, now, rfl, h⟩
    exact ⟨before, a, now, after, hmoves, h⟩
  · rintro ⟨before, a, now, after, hmoves, h⟩
    exact ⟨before, _, after, hmoves, a, now, rfl, h⟩

/-! ## Whose handlers run -/

/-- What drains have run or are running, and what was run at once by a dispatcher that does so. -/
def executed (s : Traffic H) : List (Ticket H) :=
  s.desks.flatMap (fun d => d.ran ++ d.running.toList) ++ s.elsewhere.filter (·.route = .runNow)

/-- What was executed had been accepted. -/
theorem Accounted.mem_admitted_of_executed {s : Traffic H} (h : s.Accounted) {t : Ticket H}
    (ht : t ∈ s.executed) : t ∈ s.admitted := by
  refine h.places.mem_iff.1 ?_
  rcases List.mem_append.1 ht with ht | ht
  · obtain ⟨d, hd, ht⟩ := List.mem_flatMap.1 ht
    obtain ⟨q, hq⟩ := List.getElem?_of_mem hd
    -- What a queue gave out had been put in.
    have hentered : t ∈ d.entered := by
      rw [(h.desks q d hq).order, List.append_assoc]
      exact List.mem_append_left _ ht
    exact List.mem_append_right _
      (List.mem_append_left _ (List.mem_flatMap.2 ⟨d, hd, hentered⟩))
  · have helsewhere : t ∈ s.elsewhere := List.mem_of_mem_filter ht
    exact List.mem_append_right _ (List.mem_append_right _ (List.mem_append_right _ helsewhere))

/-- What a request issues has the first mapping that was on offer for its action. -/
theorem firstFor?_of_accepted {id capacity : Nat} {before : List (Move H)} {a : Action} {now : Nat}
    {i : Invocation H}
    (hi : ((start id capacity).run before).registry.accepted? (.trigger a now) = some i) :
    i.action = a ∧ Mapping.firstFor? (offered before) a = some i.mapping := by
  obtain ⟨steps, hrun, hoffered⟩ := exists_steps id capacity before
  rw [hrun] at hi
  rw [← hoffered]
  exact Registry.firstFor?_of_accepted hi

/-- An invocation was issued in a run, for a request whose action had the invocation's mapping as the
first on offer. -/
def IssuedFirst (id capacity : Nat) (moves : List (Move H)) (i : Invocation H) : Prop :=
  ∃ before now after, moves = before ++ .client (.trigger i.action now) :: after ∧
    ((start id capacity).run before).registry.accepted? (.trigger i.action now) = some i ∧
    Mapping.firstFor? (offered before) i.action = some i.mapping

/-- What is accepted runs the first mapping that was offered for its action. -/
theorem issuedFirst_of_accepted {id capacity : Nat} {before after : List (Move H)} {a : Action}
    {now : Nat} {i : Invocation H}
    (hi : ((start id capacity).run before).registry.accepted? (.trigger a now) = some i) :
    IssuedFirst id capacity (before ++ .client (.trigger a now) :: after) i := by
  obtain ⟨rfl, hfirst⟩ := firstFor?_of_accepted hi
  exact ⟨before, now, after, rfl, hi, hfirst⟩

/-- Every request that is accepted goes by the flags of the first mapping: what needs the UI thread
gets a ticket for the dispatcher, and what does not is run at once. -/
theorem goes_by_flags {id capacity : Nat} {before after : List (Move H)} {a : Action} {now : Nat}
    {i : Invocation H}
    (hi : ((start id capacity).run before).registry.accepted? (.trigger a now) = some i) :
    let s := (start id capacity).run (before ++ .client (.trigger a now) :: after)
    if i.flags.needsUiThread then ∃ t ∈ s.admitted, t.invocation = i ∧
      ((start id capacity).run before).registry.dispatcher = some t.route
    else i ∈ s.ranAtOnce := by
  intro s
  cases hu : i.flags.needsUiThread with
  | false => exact mem_ranAtOnce_run.2 (.inr ⟨before, a, now, after, rfl, hi, hu⟩)
  | true =>
    obtain ⟨e, -, hrefusal, rfl⟩ := Registry.accepted?_trigger_iff.1 hi
    obtain ⟨-, -, hneeds⟩ := (Registry.refusal?_eq_none_iff _ e).1 hrefusal
    obtain ⟨d, hd⟩ := Option.isSome_iff_exists.1 (hneeds hu)
    exact ⟨⟨_, d, _⟩, mem_admitted_run.2 (.inr ⟨before, a, now, after, rfl, hi, hu, hd, rfl⟩), rfl, hd⟩

/-- The scripts of which a session has a record were run for invocations that the registry has issued,
each with the first mapping that was on offer for its action. -/
theorem scripts_run_first_mapping {T : Type} (capacity : Nat) (setup : Setup)
    (acts : List (Frontend.Act T)) :
    let f := (Frontend.start capacity setup).play acts
    ∃ steps, f.registry = some ((Registry.new 0 capacity).run steps) ∧
      ∀ a flags tag onMain, .run a flags tag onMain ∈ f.events →
        ∃ before now after script i, steps = before ++ .trigger a now :: after ∧
          ((Registry.new 0 capacity).run before).accepted? (.trigger a now) = some i ∧
          i.mapping = ⟨a, .script tag script, flags⟩ ∧
          Mapping.firstFor? (Registry.offered before) a = some i.mapping := by
  intro f
  obtain ⟨steps, htraced⟩ := Frontend.traced_play capacity setup acts
  refine ⟨steps, htraced.registry, fun a flags tag onMain hrun => ?_⟩
  -- The record of a script names an invocation, the run the request that it was issued for.
  obtain ⟨i, hissued, tag', script, onMain', hscript, heq⟩ :=
    htraced.runs _ (List.mem_filter.2 ⟨Array.mem_toList_iff.2 hrun, rfl⟩)
  obtain ⟨rfl, rfl, rfl, rfl⟩ := Event.run.inj heq
  obtain ⟨before, x, after, rfl, hi⟩ := Registry.occurs_iff.1 hissued
  obtain ⟨a, now, e, rfl, -⟩ := Registry.accepted?_eq_some_iff.1 hi
  obtain ⟨rfl, hfirst⟩ := Registry.firstFor?_of_accepted hi
  exact ⟨before, now, after, script, i, rfl, hi, by rw [Invocation.mapping, hscript], hfirst⟩

/-- The handler that runs for an accepted request is that of the first mapping that was offered for
the action since the table was last emptied, and its invocation carries the action and the flags of
that mapping: where it was requested if the flags do not need the UI thread, otherwise by the drain of
a queue or a dispatcher that runs it at once. Mappings that are offered later change nothing about an
action that has one, even while it is running. And so it is with all scripts of which a session has a
record, whatever limit on scripts the frontend is set up with. -/
theorem first_mapping_runs {T : Type} (capacity : Nat) :
    (∀ moves : List (Move (Handler T)),
      let s := (start 0 capacity).run moves
      (∀ i ∈ s.ranAtOnce, i.flags.needsUiThread = false ∧ IssuedFirst 0 capacity moves i) ∧
      (∀ t ∈ s.executed, t.invocation.flags.needsUiThread = true ∧
        IssuedFirst 0 capacity moves t.invocation) ∧
      (∀ before a now after i, moves = before ++ .client (.trigger a now) :: after →
        let r := ((start 0 capacity).run before).registry
        r.accepted? (.trigger a now) = some i →
          i.action = a ∧ Mapping.firstFor? (offered before) a = some i.mapping ∧
          if i.flags.needsUiThread then
            ∃ t ∈ s.admitted, t.invocation = i ∧ r.dispatcher = some t.route
          else i ∈ s.ranAtOnce) ∧
      (∀ a e ms, s.registry.lookup? a = some e →
        let r := (s.perform (.client (.register ms))).registry
        r.lookup? a = some e ∧ r.dialogOwner = s.registry.dialogOwner)) ∧
    (∀ (setup : Setup) (acts : List (Frontend.Act T)),
      let f := (Frontend.start capacity setup).play acts
      ∃ steps, f.registry = some ((Registry.new 0 capacity).run steps) ∧
        ∀ a flags tag onMain, .run a flags tag onMain ∈ f.events →
          ∃ before now after script i, steps = before ++ .trigger a now :: after ∧
            ((Registry.new 0 capacity).run before).accepted? (.trigger a now) = some i ∧
            i.mapping = ⟨a, .script tag script, flags⟩ ∧
            Mapping.firstFor? (Registry.offered before) a = some i.mapping) := by
  refine ⟨fun moves => ?_, scripts_run_first_mapping capacity⟩
  intro s
  have haccounted : s.Accounted := (Accounted.start 0 capacity).run moves
  refine ⟨fun i hi => ?_, fun t ht => ?_, ?_, fun a e ms he => ?_⟩
  -- What has run was accepted in some request, and what was accepted runs the first mapping.
  · rcases mem_ranAtOnce_run.1 hi with hnone | ⟨before, a, now, after, rfl, hissued, hu⟩
    · exact absurd hnone List.not_mem_nil
    · exact ⟨hu, issuedFirst_of_accepted hissued⟩
  · have hadmitted := haccounted.mem_admitted_of_executed ht
    rcases mem_admitted_run.1 hadmitted with hnone | ⟨before, a, now, after, rfl, hissued, hu, -⟩
    · exact absurd hnone List.not_mem_nil
    · exact ⟨hu, issuedFirst_of_accepted hissued⟩
  · rintro before a now after i rfl r hi
    obtain ⟨haction, hfirst⟩ := firstFor?_of_accepted hi
    exact ⟨haction, hfirst, goes_by_flags hi⟩
  · intro r
    obtain ⟨steps, hsteps⟩ := registry_run (start 0 capacity) moves
    have hwell : s.registry.WellFormed := by
      rw [hsteps]
      exact (Registry.wellFormed_new 0 capacity).run steps
    exact ⟨hwell.lookup?_register he ms, (s.registry.enrolWhere_frame (fun _ => true) ms).2.2.1⟩

end Switchboard.Traffic
