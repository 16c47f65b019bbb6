import Switchboard.Proofs.Registry.Coherence

/-!
# One run at a time

Between two accepted requests of one blocking action, and between two accepted requests of dialog
actions, lies a release of the action accepted first or an emptying of the table; so in a stretch
without either, of any number of requests one is accepted (`runs_exclude_each_other`).

What carries a run from the one request to the other is the stamp of its entry. A step that does
not end the run keeps the stamp (`IsRunning.perform`), and in a coherent registry a stamp is enough
to refuse the second request, whether it is the busy flag or the dialog slot that stands in its
way.
-/

namespace Switchboard.Registry

variable {H D : Type}

/-- A run of an action with these flags has been accepted and has to be finished still. -/
def IsRunning (r : Registry H D) (a : Action) (f : Flags) : Prop :=
  ∃ e, r.lookup? a = some e ∧ e.flags = f ∧ e.runningSince.isSome = true

/-- The first run of an action in a registry begins with the request that is accepted. -/
theorem WellFormed.isRunning_of_accepted {r : Registry H D} (h : r.WellFormed) {a : Action}
    {now : Nat} {i : Invocation H} (hi : r.accepted? (.trigger a now) = some i)
    (hf : i.flags.needsFinish = true) : (r.perform (.trigger a now)).IsRunning a i.flags := by
  obtain ⟨e, he, hr, rfl⟩ := accepted?_trigger_iff.1 hi
  replace hf : e.flags.needsFinish = true := hf
  refine ⟨e.start now, ?_, rfl, ?_⟩
  · rw [perform_trigger_of_accepted now he hr, h.lookup?_begin he, if_pos rfl]
  · simp [Entry.start, hf]

/-- A run goes on until a step ends it. -/
theorem IsRunning.perform {r : Registry H D} {a : Action} {f : Flags} (ha : r.IsRunning a f)
    (h : r.WellFormed) {s : Step H D} (hs : ¬ r.EndsRun a s) : (r.perform s).IsRunning a f := by
  obtain ⟨e, he, hf, hstamp⟩ := ha
  have hne : s ≠ .shutdown := by
    rintro rfl
    exact hs trivial
  rcases h.lookup?_perform he hne with ⟨now, -, -, h'⟩ | ⟨hends, -⟩ | ⟨-, -, h'⟩
  · refine ⟨_, h', hf, ?_⟩
    unfold Entry.start
    split_ifs
    · rfl
    · exact hstamp
  · exact absurd hends hs
  · exact ⟨e, h', hf, hstamp⟩

/-- A run goes on until its action is freed. -/
theorem IsRunning.run {r : Registry H D} {a : Action} {f : Flags} (ha : r.IsRunning a f)
    (h : r.WellFormed) {steps : List (Step H D)} (hs : ¬ r.Frees a steps) :
    (r.run steps).IsRunning a f := by
  induction steps generalizing r with
  | nil => exact ha
  | cons s steps ih =>
    obtain ⟨hends, hrest⟩ := not_or.1 hs
    exact ih (ha.perform h hends) (h.perform s) hrest

namespace IsRunning

variable {r : Registry H D} {a b : Action} {f g : Flags}

/-- A blocking action is busy while it is running. -/
theorem isBusy (ha : r.IsRunning a f)
    (h : r.Coherent) (hb : f.blocks = true) : r.isBusy a = true := by
  obtain ⟨e, he, rfl, hstamp⟩ := ha
  simp [Registry.isBusy, he, h.busy_eq a e he, hb, hstamp]

/-- A dialog action holds the dialog slot while it is running. -/
theorem dialogOwner_eq (ha : r.IsRunning a f) (h : r.Coherent) (hd : f.dialog = true) :
    r.dialogOwner = some a := by
  obtain ⟨e, he, rfl, hstamp⟩ := ha
  exact (h.owner_iff a).2 ⟨e, he, hd, hstamp⟩

/-- While a blocking action is running, every request of it is told that it is busy. -/
theorem judge_self (ha : r.IsRunning a f) (h : r.Coherent) (hb : f.blocks = true) (now : Nat) :
    r.judge a now = (.refused .busy, r) := by
  have hbusy := ha.isBusy h hb
  obtain ⟨e, he, rfl, -⟩ := ha
  have hr : r.refusal? e = some .busy := by
    rw [Registry.isBusy, he, Option.any_some] at hbusy
    simp [refusal?, hb, hbusy]
  simp [judge, he, hr]

/-- While a dialog action is running, every request of a dialog action is told that it is busy or
that the dialog is open. -/
theorem judge_dialog (ha : r.IsRunning a f) (h : r.Coherent) (hd : f.dialog = true)
    (hg : r.flags? b = some g) (hgd : g.dialog = true) :
    ∃ why, (why = .busy ∨ why = .dialogOpen a) ∧ ∀ now, r.judge b now = (.refused why, r) := by
  have howner := ha.dialogOwner_eq h hd
  obtain ⟨e, he, rfl⟩ := Option.map_eq_some_iff.1 hg
  by_cases hbusy : (e.flags.blocks && e.busy) = true
  · have hr : r.refusal? e = some .busy := by rw [refusal?, if_pos hbusy]
    exact ⟨.busy, .inl rfl, fun now => by simp [judge, he, hr]⟩
  · have hr : r.refusal? e = some (.dialogOpen a) := by
      rw [refusal?, if_neg hbusy, hgd, howner]
      rfl
    exact ⟨.dialogOpen a, .inr rfl, fun now => by simp [judge, he, hr]⟩

/-- While a blocking action is running, every request of it is refused. -/
theorem accepted?_self (ha : r.IsRunning a f) (h : r.Coherent) (hb : f.blocks = true) (now : Nat) :
    r.accepted? (.trigger a now) = none := by
  rw [accepted?, ha.judge_self h hb]
  rfl

/-- While a dialog action is running, every request of a dialog action is refused. -/
theorem accepted?_dialog (ha : r.IsRunning a f) (h : r.Coherent) (hd : f.dialog = true)
    (hg : r.flags? b = some g) (hgd : g.dialog = true) (now : Nat) :
    r.accepted? (.trigger b now) = none := by
  obtain ⟨why, -, hjudge⟩ := ha.judge_dialog h hd hg hgd
  rw [accepted?, hjudge]
  rfl

/-- While a blocking action is running, no request of it is accepted. -/
theorem ne_of_accepted (ha : r.IsRunning a f) (h : r.Coherent) (hb : f.blocks = true) {s : Step H D}
    {i : Invocation H} (hi : r.accepted? s = some i) : i.action ≠ a := by
  obtain ⟨b, now, e, rfl, he, -, rfl⟩ := accepted?_eq_some_iff.1 hi
  intro hab
  obtain rfl : b = a := (h.action_of_lookup? he).symm.trans hab
  simp [ha.accepted?_self h hb] at hi

/-- While a dialog action is running, no request of any dialog action is accepted. -/
theorem no_dialog_accepted (ha : r.IsRunning a f) (h : r.Coherent) (hd : f.dialog = true)
    {s : Step H D} {i : Invocation H} (hi : r.accepted? s = some i) : i.flags.dialog = false := by
  obtain ⟨b, now, e, rfl, he, -, rfl⟩ := accepted?_eq_some_iff.1 hi
  rw [← Bool.not_eq_true]
  intro hdialog
  have hflags : r.flags? b = some e.flags := by rw [flags?, he]; rfl
  simp [ha.accepted?_dialog h hd hflags hdialog] at hi

end IsRunning

/-- A request that is told that its handler ran or was handed over issued an invocation for the
action, with the flags of the action's mapping. -/
theorem exists_of_isAccepted {r : Registry H D} (h : r.WellFormed) {a : Action} {now : Nat}
    (hacc : (r.judge a now).1.outcome.isAccepted = true) :
    ∃ i, r.accepted? (.trigger a now) = some i ∧ i.action = a ∧ r.flags? a = some i.flags := by
  rw [Admission.isAccepted_outcome, Option.isSome_iff_exists] at hacc
  obtain ⟨i, hi⟩ := hacc
  replace hi : r.accepted? (.trigger a now) = some i := hi
  obtain ⟨e, he, -, rfl⟩ := accepted?_trigger_iff.1 hi
  exact ⟨_, hi, h.action_of_lookup? he, by rw [flags?, he]; rfl⟩

/-! ## One of many requests -/

/-- In a run in which some step asks for it, one invocation of a kind is issued, if the states of
the run are of two sorts: those that wait for the first request of the kind, which is accepted and
leads to the other sort, and those in which no invocation of the kind is issued. -/
theorem length_accepted_filter_eq_one (Waits Taken : Registry H D → Prop)
    (Asks Ends : Registry H D → Step H D → Prop) (kind : Invocation H → Bool)
    (waits : ∀ r s, Waits r → ¬ Ends r s →
      (∃ i, r.accepted? s = some i ∧ kind i = true ∧ Taken (r.perform s)) ∨
      (¬ Asks r s ∧ (∀ i, r.accepted? s = some i → kind i = false) ∧ Waits (r.perform s)))
    (taken : ∀ r s, Taken r → ¬ Ends r s →
      (∀ i, r.accepted? s = some i → kind i = false) ∧ Taken (r.perform s))
    {r : Registry H D} (h : Waits r) {steps : List (Step H D)} (hends : ¬ r.Occurs Ends steps)
    (hasks : r.Occurs Asks steps) : ((r.accepted steps).filter kind).length = 1 := by
  -- Nothing of the kind is issued after the first.
  have hnone : ∀ (steps : List (Step H D)) (r : Registry H D), Taken r → ¬ r.Occurs Ends steps →
      (r.accepted steps).filter kind = [] := by
    intro steps
    induction steps with
    | nil => intros; rfl
    | cons s steps ih =>
      intro r h hends
      obtain ⟨hs, hrest⟩ := not_or.1 hends
      obtain ⟨hkind, hnext⟩ := taken r s h hs
      rw [accepted, List.filter_append, ih _ hnext hrest, List.append_nil, List.filter_eq_nil_iff]
      intro i hi
      simp [hkind i (by simpa using hi)]
  induction steps generalizing r with
  | nil => exact hasks.elim
  | cons s steps ih =>
    obtain ⟨hs, hrest⟩ := not_or.1 hends
    rw [accepted, List.filter_append]
    rcases waits r s h hs with ⟨i, hi, hkind, hnext⟩ | ⟨hno, hkind, hnext⟩
    · rw [hi, hnone steps _ hnext hrest]
      simp [hkind]
    · have hnil : (r.accepted? s).toList.filter kind = [] := by
        rw [List.filter_eq_nil_iff]
        intro i hi
        simp [hkind i (by simpa using hi)]
      rw [hnil, List.nil_append]
      exact ih hnext hrest (hasks.resolve_left hno)

/-- A blocking action that is not running and opens no dialog is ready for a request. -/
structure ReadyFor (r : Registry H D) (a : Action) (f : Flags) : Prop where
  /-- The records of the registry agree. -/
  coherent : r.Coherent
  /-- The action has these flags and is idle. -/
  idle : ∃ e, r.lookup? a = some e ∧ e.flags = f ∧ e.busy = false
  /-- Something leads to the UI thread if the action runs there. -/
  routed : f.needsUiThread = true → r.dispatcher.isSome = true

/-- A step in a registry that is ready for a request of an action either is such a request and is
accepted, or leaves the registry ready. -/
theorem ReadyFor.perform {r : Registry H D} {a : Action} {f : Flags} (h : r.ReadyFor a f)
    (hb : f.blocks = true) (hd : f.dialog = false) {s : Step H D} (hs : ¬ r.EndsRun a s) :
    (∃ i, r.accepted? s = some i ∧ i.action = a ∧ (r.perform s).IsRunning a f) ∨
      ((∀ now, s ≠ .trigger a now) ∧ (∀ i, r.accepted? s = some i → i.action ≠ a) ∧
        (r.perform s).ReadyFor a f) := by
  obtain ⟨e, he, rfl, hidle⟩ := h.idle
  have hne : s ≠ .shutdown := by
    rintro rfl
    exact hs trivial
  -- As long as the registry is ready, nothing stands in the way of a request.
  have hr : r.refusal? e = none :=
    (r.refusal?_eq_none_iff e).2 ⟨fun _ => hidle, by simp [hd], h.routed⟩
  by_cases ht : ∃ now, s = .trigger a now
  · obtain ⟨now, rfl⟩ := ht
    have hi : r.accepted? (.trigger a now) = some (r.issue e) :=
      accepted?_trigger_iff.2 ⟨e, he, hr, rfl⟩
    exact .inl ⟨_, hi, h.coherent.action_of_lookup? he,
      h.coherent.isRunning_of_accepted hi (by simp [issue, Flags.needsFinish, hb])⟩
  · rw [not_exists] at ht
    rcases h.coherent.lookup?_perform he hne with ⟨now, rfl, -⟩ | ⟨hends, -⟩ | ⟨-, hno, h'⟩
    · exact absurd rfl (ht now)
    · exact absurd hends hs
    · exact .inr ⟨ht, hno, h.coherent.perform s, ⟨e, h', rfl, hidle⟩,
        fun hu => isSome_dispatcher_perform hne (h.routed hu)⟩

/-- The dialog slot is free, and something leads to the UI thread. -/
structure ReadyForDialog (r : Registry H D) : Prop where
  /-- The records of the registry agree. -/
  coherent : r.Coherent
  /-- No dialog is open. -/
  free : r.dialogOwner = none
  /-- Something leads to the UI thread. -/
  routed : r.dispatcher.isSome = true

/-- The step is a request of a registered dialog action. -/
def AsksForDialog (r : Registry H D) (s : Step H D) : Prop :=
  ∃ a now f, s = .trigger a now ∧ r.flags? a = some f ∧ f.dialog = true

/-- A step in a registry that is ready for a dialog either is a request of a dialog action and is
accepted, or leaves the registry ready. -/
theorem ReadyForDialog.perform {r : Registry H D} (h : r.ReadyForDialog) {s : Step H D}
    (hs : s ≠ .shutdown) :
    (∃ i, r.accepted? s = some i ∧ i.flags.dialog = true ∧
        ∃ a f, f.dialog = true ∧ (r.perform s).IsRunning a f) ∨
      (¬ r.AsksForDialog s ∧ (∀ i, r.accepted? s = some i → i.flags.dialog = false) ∧
        (r.perform s).ReadyForDialog) := by
  by_cases hasks : r.AsksForDialog s
  · obtain ⟨a, now, f, rfl, hf, hd⟩ := hasks
    obtain ⟨e, he, rfl⟩ := Option.map_eq_some_iff.1 hf
    have hstamp := h.coherent.idle_of_slot_free he hd h.free
    have hidle : e.busy = false := by rw [h.coherent.busy_eq a e he, hstamp]; simp
    have hr : r.refusal? e = none :=
      (r.refusal?_eq_none_iff e).2 ⟨fun _ => hidle, fun _ => h.free, fun _ => h.routed⟩
    have hi : r.accepted? (.trigger a now) = some (r.issue e) :=
      accepted?_trigger_iff.2 ⟨e, he, hr, rfl⟩
    exact .inl ⟨_, hi, hd, a, e.flags, hd,
      h.coherent.isRunning_of_accepted hi (by simp [issue, Flags.needsFinish, hd])⟩
  · have hno : ∀ i, r.accepted? s = some i → i.flags.dialog = false := by
      intro i hi
      obtain ⟨a, now, e, rfl, he, -, rfl⟩ := accepted?_eq_some_iff.1 hi
      cases hd : (r.issue e).flags.dialog with
      | false => rfl
      | true => exact absurd ⟨a, now, e.flags, rfl, by rw [flags?, he]; rfl, hd⟩ hasks
    refine .inr ⟨hasks, hno, h.coherent.perform s, ?_, isSome_dispatcher_perform hs h.routed⟩
    -- Whoever held the slot after the step was running before it or was accepted in it.
    cases ho : (r.perform s).dialogOwner with
    | none => rfl
    | some a =>
      exfalso
      obtain ⟨e', he', hd, hstamp⟩ := ((h.coherent.perform s).owner_iff a).1 ho
      cases he : r.lookup? a with
      | none =>
        have := (h.coherent.idle_of_new_entry he he').2
        simp [this] at hstamp
      | some e =>
        rcases h.coherent.lookup?_perform he hs with ⟨now, rfl, -, h'⟩ | ⟨-, h'⟩ | ⟨-, -, h'⟩
        · rw [he'] at h'
          obtain rfl := Option.some.inj h'
          exact hasks ⟨a, now, e.flags, rfl, by rw [flags?, he]; rfl, hd⟩
        · rw [he'] at h'
          obtain rfl := Option.some.inj h'
          simp [Entry.stop] at hstamp
        · rw [he'] at h'
          obtain rfl := Option.some.inj h'
          have := h.coherent.idle_of_slot_free he hd h.free
          simp [this] at hstamp

/-! ## Between two requests, and of many -/

/-- Between two accepted requests of one blocking action, and between two accepted requests of
dialog actions, a step ends the run that was accepted first. -/
theorem Coherent.frees_between {r : Registry H D} (h : r.Coherent) {a b : Action} {t u : Nat}
    {mid : List (Step H D)} (hfirst : (r.judge a t).1.outcome.isAccepted = true)
    (hsecond : ((((r.perform (.trigger a t)).run mid).judge b u).1.outcome.isAccepted = true))
    (hkind : (a = b ∧ ∃ f, r.flags? a = some f ∧ f.blocks = true) ∨
      ∃ f g, r.flags? a = some f ∧ f.dialog = true ∧
        ((r.perform (.trigger a t)).run mid).flags? b = some g ∧ g.dialog = true) :
    (r.perform (.trigger a t)).Frees a mid := by
  by_contra hfree
  have h' := (h.perform (.trigger a t)).run mid
  obtain ⟨i, hi, -, hfi⟩ := exists_of_isAccepted h.toWellFormed hfirst
  obtain ⟨j, hj, hjb, hgj⟩ := exists_of_isAccepted h'.toWellFormed hsecond
  -- The first run has a stamp still when the second request comes.
  have hrunning : i.flags.needsFinish = true →
      ((r.perform (.trigger a t)).run mid).IsRunning a i.flags := fun hf =>
    (h.isRunning_of_accepted hi hf).run (h.perform _).toWellFormed hfree
  rcases hkind with ⟨rfl, f, hf, hb⟩ | ⟨f, g, hf, hd, hg, hd'⟩
  · obtain rfl := Option.some.inj (hfi.symm.trans hf)
    exact (hrunning (by simp [Flags.needsFinish, hb])).ne_of_accepted h' hb hj hjb
  · obtain rfl := Option.some.inj (hfi.symm.trans hf)
    obtain rfl := Option.some.inj (hgj.symm.trans hg)
    have := (hrunning (by simp [Flags.needsFinish, hd])).no_dialog_accepted h' hd hj
    simp [hd'] at this

/-- Of any number of requests of an action that is ready for one, one is accepted, if no step ends a
run of the action. -/
theorem ReadyFor.accepts_one {r : Registry H D} {a : Action} {f : Flags} (h : r.ReadyFor a f)
    (hb : f.blocks = true) (hd : f.dialog = false) {steps : List (Step H D)}
    (hfree : ¬ r.Frees a steps) (hasks : ∃ now, .trigger a now ∈ steps) :
    ((r.accepted steps).filter (·.action = a)).length = 1 := by
  refine length_accepted_filter_eq_one (fun r => r.ReadyFor a f)
    (fun r => r.Coherent ∧ r.IsRunning a f) (fun _ s => ∃ now, s = .trigger a now)
    (fun r s => r.EndsRun a s) _ ?_ ?_ h hfree ?_
  · intro r s h hs
    rcases h.perform hb hd hs with ⟨i, hi, hia, hrun⟩ | ⟨ht, hno, hnext⟩
    · exact .inl ⟨i, hi, by simp [hia], h.coherent.perform s, hrun⟩
    · exact .inr ⟨fun hs => hs.elim ht, fun i hi => by simp [hno i hi], hnext⟩
  · rintro r s ⟨h, hrun⟩ hs
    exact ⟨fun i hi => by simp [hrun.ne_of_accepted h hb hi],
      h.perform s, hrun.perform h.toWellFormed hs⟩
  · obtain ⟨now, hmem⟩ := hasks
    obtain ⟨s, t, rfl⟩ := List.append_of_mem hmem
    exact occurs_iff.2 ⟨s, _, t, rfl, now, rfl⟩

/-- Of any number of requests of dialog actions in a registry that is ready for one, one is
accepted, if no step ends a run. -/
theorem ReadyForDialog.accepts_one {r : Registry H D} (h : r.ReadyForDialog)
    {steps : List (Step H D)} (hfree : ∀ b, ¬ r.Frees b steps)
    (hasks : r.Occurs AsksForDialog steps) :
    ((r.accepted steps).filter (·.flags.dialog)).length = 1 := by
  refine length_accepted_filter_eq_one ReadyForDialog
    (fun r => r.Coherent ∧ ∃ a f, f.dialog = true ∧ r.IsRunning a f) AsksForDialog
    (fun r s => ∃ b, r.EndsRun b s) _ ?_ ?_ h ?_ hasks
  -- The first dialog that is accepted is running from then on; until then the registry is ready for
  -- one.
  · intro r s h hs
    have hne : s ≠ .shutdown := by
      rintro rfl
      exact hs ⟨default, trivial⟩
    rcases h.perform hne with ⟨i, hi, hd, hrun⟩ | hwaits
    · exact .inl ⟨i, hi, hd, h.coherent.perform s, hrun⟩
    · exact .inr hwaits
  -- While a dialog is running no other is accepted, and it is running as long as no step ends its
  -- run.
  · rintro r s ⟨h, a, f, hd, hrun⟩ hs
    exact ⟨fun i hi => hrun.no_dialog_accepted h hd hi,
      h.perform s, a, f, hd, hrun.perform h.toWellFormed fun hends => hs ⟨a, hends⟩⟩
  · intro hoccurs
    obtain ⟨s, x, t, hsplit, b, hends⟩ := occurs_iff.1 hoccurs
    exact hfree b (occurs_iff.2 ⟨s, x, t, hsplit, hends⟩)

/-- Runs exclude each other, in every run of a new registry under any clients and any handlers.
Between two accepted requests of a blocking action, and between two accepted requests of dialog
actions, a step ends the run that was accepted first. In a stretch that ends no run of a blocking
action that opens no dialog and is idle at its start, of any number of requests one is accepted, if
something leads to the UI thread where the action needs it; in a stretch that ends no run, from a
free dialog slot and with something that leads to the UI thread, of any number of requests of dialog
actions one is accepted. -/
theorem runs_exclude_each_other (id capacity : Nat) (before : List (Step H D)) :
    let r : Registry H D := (new id capacity).run before
    (∀ a t mid b u,
      let r' := (r.perform (.trigger a t)).run mid
      (r.judge a t).1.outcome.isAccepted = true → (r'.judge b u).1.outcome.isAccepted = true →
      (a = b ∧ (∃ f, r.flags? a = some f ∧ f.blocks = true)) ∨
        (∃ f g, r.flags? a = some f ∧ f.dialog = true ∧ r'.flags? b = some g ∧ g.dialog = true) →
      (r.perform (.trigger a t)).Frees a mid) ∧
    (∀ a f steps, r.flags? a = some f → f.blocks = true → f.dialog = false → r.isBusy a = false →
      (f.uithread = true → r.hasDispatcher = true) → ¬ r.Frees a steps →
      (∃ now, .trigger a now ∈ steps) →
      ((r.accepted steps).filter (·.action = a)).length = 1) ∧
    (∀ steps, r.dialogOwner = none → r.hasDispatcher = true → (∀ b, ¬ r.Frees b steps) →
      r.Occurs AsksForDialog steps → ((r.accepted steps).filter (·.flags.dialog)).length = 1) := by
  intro r
  have h : r.Coherent := (coherent_new id capacity).run before
  refine ⟨?_, ?_, ?_⟩
  · intro a t mid b u r' hfirst hsecond hkind
    exact h.frees_between hfirst hsecond hkind
  · intro a f steps hf hb hd hidle hrouted hfree hasks
    obtain ⟨e, he, rfl⟩ := Option.map_eq_some_iff.1 hf
    -- Idle, and served by a dispatcher if it needs one: all that a request can be refused for is
    -- ruled out.
    have hready : r.ReadyFor a e.flags :=
      ⟨h, ⟨e, he, rfl, by simpa [isBusy, he] using hidle⟩,
        fun hu => hrouted (by simpa [Flags.needsUiThread, hd] using hu)⟩
    exact hready.accepts_one hb hd hfree hasks
  · intro steps hslot hrouted hfree hasks
    exact ReadyForDialog.accepts_one ⟨h, hslot, hrouted⟩ hfree hasks

/-- A blocking mapping for the soft reset. -/
def softReset : Mapping Unit := ⟨.resetSoft, (), Flags.none.blocking⟩

/-- A mapping that opens a dialog for an action. -/
def dialogFor (a : Action) : Mapping Unit := ⟨a, (), Flags.none.asDialog⟩

/-- Two soft resets have a release between them, and of three requests one is accepted; so is one of
three requests of two dialogs. -/
theorem soft_resets_and_dialogs_exclude_each_other :
    let r : Registry Unit Unit := (new 0 3).run
      [.register [softReset, dialogFor .quit, dialogFor .aboutDialog], .setDispatcher ()]
    (r.perform (.trigger .resetSoft 0)).Frees .resetSoft [.finish .resetSoft] ∧
      ((r.accepted [.trigger .resetSoft 0, .trigger .quit 1, .trigger .resetSoft 2,
        .trigger .resetSoft 3]).filter (·.action = .resetSoft)).length = 1 ∧
      ((r.accepted [.trigger .quit 0, .trigger .aboutDialog 1, .trigger .quit 2]).filter
        (·.flags.dialog)).length = 1 := by
  obtain ⟨hbetween, hblocking, hdialog⟩ := runs_exclude_each_other (H := Unit) (D := Unit) 0 3
    [.register [softReset, dialogFor .quit, dialogFor .aboutDialog], .setDispatcher ()]
  refine ⟨hbetween .resetSoft 0 [.finish .resetSoft] .resetSoft 1 (by decide) (by decide)
    (.inl ⟨rfl, _, rfl, rfl⟩), ?_, ?_⟩
  · exact hblocking .resetSoft _ _ rfl rfl rfl rfl (fun _ => rfl)
      (by simp [Frees, Occurs, EndsRun]) ⟨0, by simp⟩
  · exact hdialog _ rfl rfl (by simp [Frees, Occurs, EndsRun])
      (.inl ⟨.quit, 0, _, rfl, rfl, rfl⟩)

end Switchboard.Registry
