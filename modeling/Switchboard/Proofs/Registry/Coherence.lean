import Switchboard.Proofs.Registry.Run

/-!
# Busy flags, stamps and the dialog slot agree

A registry records in three places that something is running: the busy flag of an entry, the time at
which its run was accepted, and the dialog slot. `Coherent` says how the three agree. The stamp is
what the other two are told by: an entry is busy exactly when it is blocking and has a stamp, and
the dialog slot is held by exactly the dialog action that has one. Every step of a client keeps
this (`Coherent.perform`), so it holds in every state that a new registry can get into.
-/

namespace Switchboard.Registry

variable {H D : Type}

/-- The records of what is running agree. -/
structure Coherent (r : Registry H D) : Prop extends r.WellFormed where
  /-- An entry is busy exactly when it is blocking and its run is stamped. -/
  busy_eq : ∀ a e, r.lookup? a = some e → e.busy = (e.flags.blocks && e.runningSince.isSome)
  /-- An action holds the dialog slot exactly when it has a dialog entry whose run is stamped. -/
  owner_iff : ∀ a, r.dialogOwner = some a ↔
    ∃ e, r.lookup? a = some e ∧ e.flags.dialog = true ∧ e.runningSince.isSome = true
  /-- Only an entry whose runs have to be finished has a stamp. -/
  plain : ∀ a e, r.lookup? a = some e → e.flags.needsFinish = false → e.runningSince = none

namespace Coherent

variable {r : Registry H D}

/-- A registry without entries in which no dialog is open is coherent. -/
theorem of_empty (h : r.WellFormed) (he : ∀ a, r.lookup? a = none) (ho : r.dialogOwner = none) :
    r.Coherent :=
  { h with
    busy_eq := fun a e hae => by simp [he] at hae
    owner_iff := fun a => by simp [he, ho]
    plain := fun a e hae => by simp [he] at hae }

/-- A dialog action with an entry that is idle does not hold the slot. -/
theorem owner_ne_of_idle (h : r.Coherent) {a : Action} {e : Entry H} (he : r.lookup? a = some e)
    (hi : e.runningSince = none) : r.dialogOwner ≠ some a := by
  intro ho
  obtain ⟨e', he', -, hs⟩ := (h.owner_iff a).1 ho
  rw [he] at he'
  rw [← Option.some.inj he', hi] at hs
  simp at hs

/-- While the slot is free no dialog action is running. -/
theorem idle_of_slot_free (h : r.Coherent) {a : Action} {e : Entry H} (he : r.lookup? a = some e)
    (hd : e.flags.dialog = true) (ho : r.dialogOwner = none) : e.runningSince = none := by
  cases hs : e.runningSince with
  | none => rfl
  | some since =>
    have := (h.owner_iff a).2 ⟨e, he, hd, by rw [hs]; rfl⟩
    simp [ho] at this

/-- Adding mappings keeps a registry coherent: what is added is idle, and nothing else changes. -/
theorem enrolWhere (h : r.Coherent) (keep : Action → Bool) (ms : List (Mapping H)) :
    (r.enrolWhere keep ms).2.Coherent := by
  -- An entry was there before, or it is that of a mapping and idle.
  have hcases : ∀ a e, (r.enrolWhere keep ms).2.lookup? a = some e →
      r.lookup? a = some e ∨ (r.lookup? a = none ∧ e.busy = false ∧ e.runningSince = none) := by
    intro a e he
    rw [h.lookup?_enrolWhere] at he
    cases ha : r.lookup? a with
    | some e' => rw [ha] at he; exact .inl he
    | none =>
      rw [ha, Option.none_or] at he
      obtain ⟨m, -, rfl⟩ := Option.map_eq_some_iff.1 he
      exact .inr ⟨rfl, rfl, rfl⟩
  obtain ⟨-, -, ho, -⟩ := enrolWhere_frame r keep ms
  refine { h.toWellFormed.enrolWhere keep ms with busy_eq := ?_, owner_iff := ?_, plain := ?_ }
  · intro a e he
    rcases hcases a e he with he | ⟨-, hb, hs⟩
    · exact h.busy_eq a e he
    · simp [hb, hs]
  · intro a
    rw [ho, h.owner_iff]
    constructor
    · rintro ⟨e, he, hd, hs⟩
      exact ⟨e, by rw [h.lookup?_enrolWhere, he]; rfl, hd, hs⟩
    · rintro ⟨e, he, hd, hs⟩
      rcases hcases a e he with he | ⟨-, -, hn⟩
      · exact ⟨e, he, hd, hs⟩
      · simp [hn] at hs
  · intro a e he hf
    rcases hcases a e he with he | ⟨-, -, hs⟩
    · exact h.plain a e he hf
    · exact hs

/-- Accepting a request keeps a registry coherent: the entry is stamped as it becomes busy and as it
takes the slot, which was free. -/
theorem begin (h : r.Coherent) {a : Action} {e : Entry H} (he : r.lookup? a = some e)
    (hr : r.refusal? e = none) (now : Nat) : (r.begin e now).Coherent := by
  obtain ⟨hidle, hfree, -⟩ := (r.refusal?_eq_none_iff e).1 hr
  have hae := h.action_of_lookup? he
  have hentry := h.lookup?_begin he now
  have howner : (r.begin e now).dialogOwner = if e.flags.dialog then some a else r.dialogOwner := by
    rw [← hae]; rfl
  refine { h.toWellFormed.begin e now with busy_eq := ?_, owner_iff := ?_, plain := ?_ }
  · intro b e' he'
    rw [hentry] at he'
    split_ifs at he' with hb
    · obtain rfl := Option.some.inj he'
      have := h.busy_eq a e he
      cases hbl : e.flags.blocks <;> simp_all [Entry.start, Flags.needsFinish]
    · exact h.busy_eq b e' he'
  · intro b
    rw [howner, hentry]
    by_cases hb : b = a
    · subst hb
      by_cases hd : e.flags.dialog = true
      · simp [hd, Entry.start, Flags.needsFinish]
      · have := h.owner_iff b
        simp_all [Entry.start]
    · rw [if_neg hb, ← h.owner_iff b]
      -- A dialog is accepted only while the slot is free, so no other action loses it.
      by_cases hd : e.flags.dialog = true
      · simp [hd, hfree hd, Ne.symm hb]
      · simp [hd]
  · intro b e' he' hf
    rw [hentry] at he'
    split_ifs at he' with hb
    · obtain rfl := Option.some.inj he'
      replace hf : e.flags.needsFinish = false := hf
      have := h.plain a e he hf
      simp [Entry.start, hf, this]
    · exact h.plain b e' he' hf

/-- What a release does to the dialog slot: it gives the slot back if the action holds it. -/
theorem dialogOwner_release (h : r.Coherent) (a : Action) (epoch : Option Nat) :
    (r.release a epoch).2.dialogOwner =
      if r.dialogOwner = some a ∧ epoch.all (· == r.epoch) then none else r.dialogOwner := by
  have hany : epoch.any (· != r.epoch) = !epoch.all (· == r.epoch) := by
    cases epoch <;> simp [bne]
  unfold Registry.release
  rw [hany]
  cases hc : epoch.all (· == r.epoch) with
  | false => simp
  | true =>
    simp only [Bool.not_true, Bool.false_eq_true, if_false, and_true]
    cases he : r.lookup? a with
    | none =>
      -- An action without entry does not hold the slot.
      rw [if_neg]
      intro ho
      obtain ⟨e, he', -⟩ := (h.owner_iff a).1 ho
      simp [he] at he'
    | some e =>
      by_cases ho : r.dialogOwner = some a
      · obtain ⟨e', he', hd, -⟩ := (h.owner_iff a).1 ho
        rw [he] at he'
        simp [ho, Option.some.inj he', hd]
      · simp [ho]

/-- A release keeps a registry coherent: what counts takes the stamp away with the busy flag and the
slot. -/
theorem release (h : r.Coherent) (a : Action) (epoch : Option Nat) :
    (r.release a epoch).2.Coherent := by
  have howner := h.dialogOwner_release a epoch
  have hentry := fun b => h.lookup?_release a b epoch
  refine { h.toWellFormed.release a epoch with busy_eq := ?_, owner_iff := ?_, plain := ?_ }
  · intro b e he
    rw [hentry] at he
    split_ifs at he with hb
    · obtain ⟨e', -, rfl⟩ := Option.map_eq_some_iff.1 he
      simp [Entry.stop]
    · exact h.busy_eq b e he
  · intro b
    rw [howner, hentry]
    -- A release for another epoch leaves the slot and the entries; else it stops the action's run,
    -- and gives the slot back only if the action holds it.
    by_cases hc : epoch.all (· == r.epoch) = true
    · by_cases hb : b = a
      · subst hb
        simp only [hc, and_true, if_true]
        constructor
        · intro ho
          split_ifs at ho with h'
          exact absurd ho h'
        · rintro ⟨e, he, -, hs⟩
          obtain ⟨e', -, rfl⟩ := Option.map_eq_some_iff.1 he
          simp [Entry.stop] at hs
      · simp only [hc, hb, and_true, if_false]
        rw [← h.owner_iff b]
        split_ifs with ho
        · simp [ho, Ne.symm hb]
        · rfl
    · simp only [hc, Bool.false_eq_true, and_false, if_false]
      exact h.owner_iff b
  · intro b e he hf
    rw [hentry] at he
    split_ifs at he with hb
    · obtain ⟨e', -, rfl⟩ := Option.map_eq_some_iff.1 he
      rfl
    · exact h.plain b e he hf

/-- Every step of a client keeps a registry coherent. -/
theorem perform (h : r.Coherent) (s : Step H D) : (r.perform s).Coherent := by
  cases s with
  | register ms => exact h.enrolWhere _ ms
  | setDispatcher d =>
    exact { h.toWellFormed.perform (.setDispatcher d) with
      busy_eq := h.busy_eq, owner_iff := h.owner_iff, plain := h.plain }
  | trigger a now =>
    cases hi : r.accepted? (.trigger a now) with
    | none => rw [perform_trigger_of_not_accepted hi]; exact h
    | some i =>
      obtain ⟨e, he, hr, -⟩ := accepted?_trigger_iff.1 hi
      rw [perform_trigger_of_accepted now he hr]
      exact h.begin he hr now
  | finish a => exact h.release a none
  | finishInvocation i => exact h.release i.action (some i.epoch)
  | shutdown => exact of_empty (wellFormed_shutdown r) (lookup?_shutdown r) rfl

/-- Every run leaves the records in agreement. -/
theorem run (h : r.Coherent) (steps : List (Step H D)) : (r.run steps).Coherent := by
  induction steps generalizing r with
  | nil => exact h
  | cons s steps ih => exact ih (h.perform s)

end Coherent

/-- A new registry is coherent. -/
theorem coherent_new (id capacity : Nat) : (new id capacity : Registry H D).Coherent :=
  .of_empty (wellFormed_new id capacity) (lookup?_new id capacity) rfl

/-! ## What the queries of a coherent registry say -/

namespace Coherent

variable {r : Registry H D}

/-- A registered action is busy exactly when it is blocking and stamped. -/
theorem isBusy_iff (h : r.Coherent) {a : Action} {f : Flags} (hf : r.flags? a = some f) :
    r.isBusy a = true ↔ f.blocks = true ∧ (r.runningSince? a).isSome = true := by
  obtain ⟨e, he, rfl⟩ := Option.map_eq_some_iff.1 hf
  have hb := h.busy_eq a e he
  simp [isBusy, runningSince?, he, hb]

/-- A registered action holds the dialog slot exactly when it opens a dialog and is stamped. -/
theorem dialogOwner_iff (h : r.Coherent) {a : Action} {f : Flags} (hf : r.flags? a = some f) :
    r.dialogOwner = some a ↔ f.dialog = true ∧ (r.runningSince? a).isSome = true := by
  obtain ⟨e, he, rfl⟩ := Option.map_eq_some_iff.1 hf
  rw [h.owner_iff]
  simp [runningSince?, he]

/-- A registered action that neither blocks nor opens a dialog is never stamped. -/
theorem runningSince?_of_plain (h : r.Coherent) {a : Action} {f : Flags}
    (hf : r.flags? a = some f) (hb : f.blocks = false) (hd : f.dialog = false) :
    r.runningSince? a = none := by
  obtain ⟨e, he, rfl⟩ := Option.map_eq_some_iff.1 hf
  have := h.plain a e he (by simp [Flags.needsFinish, hb, hd])
  simp [runningSince?, he, this]

/-- The holder of the dialog slot is registered and opens a dialog. -/
theorem dialog_of_owner (h : r.Coherent) {a : Action} (ho : r.dialogOwner = some a) :
    ∃ f, r.flags? a = some f ∧ f.dialog = true := by
  obtain ⟨e, he, hd, -⟩ := (h.owner_iff a).1 ho
  exact ⟨e.flags, by simp [flags?, he], hd⟩

/-- Without a threshold the stalled actions are those that are busy or hold the dialog slot. -/
theorem mem_stalled_zero_iff (h : r.Coherent) (now : Nat) (a : Action) :
    a ∈ (r.stalled 0 now).map (·.action) ↔ r.isBusy a = true ∨ r.dialogOwner = some a := by
  -- Without a threshold any stamp is old enough.
  have hmem : a ∈ (r.stalled 0 now).map (·.action) ↔ (r.runningSince? a).isSome = true := by
    rw [h.action_mem_stalled_iff, Option.isSome_iff_exists]
    simp only [Nat.zero_le, and_true]
  rw [hmem]
  cases hf : r.flags? a with
  | none =>
    have he : r.lookup? a = none := by simpa [flags?] using hf
    have ho : r.dialogOwner ≠ some a := by
      intro ho
      obtain ⟨f, hf', -⟩ := h.dialog_of_owner ho
      simp [hf] at hf'
    simp [runningSince?, isBusy, he, ho]
  | some f =>
    rw [h.isBusy_iff hf, h.dialogOwner_iff hf]
    -- A stamp is one of a blocking action or of a dialog, since others have none.
    constructor
    · intro hs
      cases hb : f.blocks with
      | true => exact .inl ⟨rfl, hs⟩
      | false =>
        cases hd : f.dialog with
        | true => exact .inr ⟨rfl, hs⟩
        | false => simp [h.runningSince?_of_plain hf hb hd] at hs
    · rintro (⟨-, hs⟩ | ⟨-, hs⟩) <;> exact hs

end Coherent

/-- In every state that a new registry can get into, under any clients and any handlers, the busy
flags, the stamps and the dialog slot agree. An action is busy exactly when it is blocking and
stamped, and holds the slot exactly when it opens a dialog and is stamped; an action that does
neither is never stamped. So the slot is held by a registered dialog action or by none, at most one
dialog action is running, and the runs of any age are those of the actions that are busy or hold the
slot, each listed once. -/
theorem records_agree (id capacity : Nat) (steps : List (Step H D)) :
    let r : Registry H D := (new id capacity).run steps
    (∀ a f, r.flags? a = some f →
      (r.isBusy a = true ↔ f.blocks = true ∧ (r.runningSince? a).isSome = true) ∧
      (r.dialogOwner = some a ↔ f.dialog = true ∧ (r.runningSince? a).isSome = true) ∧
      (f.blocks = false → f.dialog = false → r.runningSince? a = none)) ∧
    (∀ a, r.dialogOwner = some a → ∃ f, r.flags? a = some f ∧ f.dialog = true) ∧
    (∀ a b f g, r.flags? a = some f → f.dialog = true → (r.runningSince? a).isSome = true →
      r.flags? b = some g → g.dialog = true → (r.runningSince? b).isSome = true → a = b) ∧
    (∀ now, ((r.stalled 0 now).map (·.action)).Nodup ∧
      ∀ a, a ∈ (r.stalled 0 now).map (·.action) ↔ r.isBusy a = true ∨ r.dialogOwner = some a) := by
  intro r
  have h : r.Coherent := (coherent_new id capacity).run steps
  refine ⟨?_, fun a => h.dialog_of_owner, ?_, ?_⟩
  · intro a f hf
    exact ⟨h.isBusy_iff hf, h.dialogOwner_iff hf, h.runningSince?_of_plain hf⟩
  · -- Two dialog actions that are running would both hold the slot.
    intro a b f g hf hfd hfs hg hgd hgs
    have ha := (h.dialogOwner_iff hf).2 ⟨hfd, hfs⟩
    have hb := (h.dialogOwner_iff hg).2 ⟨hgd, hgs⟩
    rw [ha] at hb
    exact Option.some.inj hb
  · intro now
    exact ⟨(r.stalled_sublist 0 now).nodup h.nodup_registered, h.mem_stalled_zero_iff now⟩

end Switchboard.Registry
