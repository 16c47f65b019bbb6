import Switchboard.Proofs.Registry.Coherence

/-!
# Stamps

The stamp of an action is the time at which its run was accepted. `runningSince?_perform` says what
a step can do to it: a request that is accepted sets it where there was none, the end of the run
takes it away, and nothing else touches it. So a run that is not over has the stamp with which it
began (`runningSince?_run`).
-/

namespace Switchboard.Registry.Coherent

variable {H D : Type} {r : Registry H D}

/-- An action whose run has to be finished is accepted only while it has no stamp. -/
theorem runningSince?_of_accepted (h : r.Coherent) {a : Action} {e : Entry H}
    (he : r.lookup? a = some e) (hr : r.refusal? e = none) (hf : e.flags.needsFinish = true) :
    r.runningSince? a = none := by
  obtain ⟨hidle, hfree, -⟩ := (r.refusal?_eq_none_iff e).1 hr
  have hbusy := h.busy_eq a e he
  rw [runningSince?, he, Option.bind_some]
  by_cases hd : e.flags.dialog = true
  · exact h.idle_of_slot_free he hd (hfree hd)
  · have hb : e.flags.blocks = true := by simpa [Flags.needsFinish, hd] using hf
    simpa [hidle hb, hb] using hbusy

/-- A run that needs no finishing leaves no stamp. -/
theorem runningSince?_begin_plain (h : r.Coherent) {a : Action} {e : Entry H}
    (he : r.lookup? a = some e) (hf : e.flags.needsFinish = false) (now : Nat) :
    (r.begin e now).runningSince? a = r.runningSince? a := by
  simp [runningSince?, h.lookup?_begin he, he, Entry.start, hf]

/-- What a step can do to the stamp of an action: it accepts a request for it that has to be
finished, and sets the stamp to the time of the request; it ends the action's run, and there is no
stamp; or it leaves the stamp. -/
theorem runningSince?_perform (h : r.Coherent) (a : Action) (s : Step H D) :
    (∃ now i, s = .trigger a now ∧ r.accepted? s = some i ∧ i.flags.needsFinish = true ∧
      r.runningSince? a = none ∧ (r.perform s).runningSince? a = some now) ∨
    (r.EndsRun a s ∧ (r.perform s).runningSince? a = none) ∨
    (¬ r.EndsRun a s ∧
      (∀ i, r.accepted? s = some i → i.action = a → i.flags.needsFinish = false) ∧
      (r.perform s).runningSince? a = r.runningSince? a) := by
  by_cases hs : s = .shutdown
  · subst hs
    have hnone : r.shutdown.runningSince? a = none := by simp [runningSince?]
    exact .inr (.inl ⟨trivial, hnone⟩)
  cases he : r.lookup? a with
  | none =>
    -- An action without entry has no stamp, and gets none with an entry.
    have hnone : r.runningSince? a = none := by simp [runningSince?, he]
    have hnone' : (r.perform s).runningSince? a = none := by
      cases he' : (r.perform s).lookup? a with
      | none => simp [runningSince?, he']
      | some e' => simp [runningSince?, he', (h.idle_of_new_entry he he').2]
    by_cases hends : r.EndsRun a s
    · exact .inr (.inl ⟨hends, hnone'⟩)
    · refine .inr (.inr ⟨hends, fun i hi ha => ?_, hnone'.trans hnone.symm⟩)
      obtain ⟨b, now, e, -, he', -, rfl⟩ := accepted?_eq_some_iff.1 hi
      obtain rfl : b = a := (h.action_of_lookup? he').symm.trans ha
      simp [he] at he'
  | some e =>
    rcases h.lookup?_perform he hs with ⟨now, rfl, hr, h'⟩ | ⟨hends, h'⟩ | ⟨hends, hno, h'⟩
    · have hi : r.accepted? (.trigger a now) = some (r.issue e) :=
        accepted?_trigger_iff.2 ⟨e, he, hr, rfl⟩
      cases hf : e.flags.needsFinish with
      | true =>
        exact .inl ⟨now, r.issue e, rfl, hi, hf, h.runningSince?_of_accepted he hr hf,
          by simp [runningSince?, h', Entry.start, hf]⟩
      | false =>
        refine .inr (.inr ⟨not_false, fun i hi' _ => ?_, ?_⟩)
        · obtain rfl := Option.some.inj (hi.symm.trans hi')
          exact hf
        · rw [perform_trigger_of_accepted now he hr]
          exact h.runningSince?_begin_plain he hf now
    · exact .inr (.inl ⟨hends, by simp [runningSince?, h', Entry.stop]⟩)
    · exact .inr (.inr ⟨hends, fun i hi ha => absurd ha (hno i hi),
        by simp [runningSince?, h', he]⟩)

/-- A request that is accepted and has to be finished sets the stamp. -/
theorem runningSince?_trigger (h : r.Coherent) {a : Action} {now : Nat} {i : Invocation H}
    (hi : r.accepted? (.trigger a now) = some i) (hf : i.flags.needsFinish = true) :
    (r.perform (.trigger a now)).runningSince? a = some now := by
  obtain ⟨e, he, hr, rfl⟩ := accepted?_trigger_iff.1 hi
  replace hf : e.flags.needsFinish = true := hf
  simp [perform_trigger_of_accepted now he hr, runningSince?, h.lookup?_begin he, Entry.start, hf]

/-- An action has a stamp exactly if it is busy or holds the dialog slot. -/
theorem isSome_runningSince?_iff (h : r.Coherent) (a : Action) :
    (r.runningSince? a).isSome = true ↔ r.isBusy a = true ∨ r.dialogOwner = some a := by
  rw [← h.mem_stalled_zero_iff 0 a, h.action_mem_stalled_iff, Option.isSome_iff_exists]
  simp only [Nat.zero_le, and_true]

/-- A request that is accepted leaves a stamp exactly if it has to be finished. -/
theorem isSome_runningSince?_trigger (h : r.Coherent) {a : Action} {now : Nat} {i : Invocation H}
    (hi : r.accepted? (.trigger a now) = some i) :
    ((r.perform (.trigger a now)).runningSince? a).isSome = i.flags.needsFinish := by
  cases hf : i.flags.needsFinish with
  | true => rw [h.runningSince?_trigger hi hf, Option.isSome_some]
  | false =>
    obtain ⟨e, he, hr, rfl⟩ := accepted?_trigger_iff.1 hi
    rw [perform_trigger_of_accepted now he hr, h.runningSince?_begin_plain he hf, runningSince?, he,
      Option.bind_some, h.plain a e he hf, Option.isSome_none]

/-- Without another request of the action, a stamp stays exactly until the run is over. -/
theorem isSome_runningSince?_run (h : r.Coherent) {a : Action} {steps : List (Step H D)}
    (hno : ∀ i ∈ r.accepted steps, i.action ≠ a) :
    ((r.run steps).runningSince? a).isSome = true ↔
      (r.runningSince? a).isSome = true ∧ ¬ r.Frees a steps := by
  induction steps generalizing r with
  | nil => exact (and_iff_left not_false).symm
  | cons s steps ih =>
    have hnow : ∀ i, r.accepted? s = some i → i.action ≠ a := fun i hi =>
      hno i (List.mem_append_left _ (by simp [hi]))
    have hrest : ∀ i ∈ (r.perform s).accepted steps, i.action ≠ a := fun i hi =>
      hno i (List.mem_append_right _ hi)
    have hfrees : r.Frees a (s :: steps) ↔ r.EndsRun a s ∨ (r.perform s).Frees a steps := Iff.rfl
    rw [run_cons, ih (h.perform s) hrest, hfrees, not_or]
    rcases h.runningSince?_perform a s with ⟨now, i, rfl, hi, -⟩ | ⟨hends, hnone⟩ | ⟨hends, -, h'⟩
    · exact absurd (h.action_of_accepted hi) (hnow i hi)
    · simp [hnone, hends]
    · simp [h', hends]

/-- A run that is not over keeps its stamp. -/
theorem runningSince?_run (h : r.Coherent) {a : Action} {since : Nat}
    (ha : r.runningSince? a = some since) {steps : List (Step H D)} (hfree : ¬ r.Frees a steps) :
    (r.run steps).runningSince? a = some since := by
  induction steps generalizing r with
  | nil => exact ha
  | cons s steps ih =>
    obtain ⟨hends, hrest⟩ := not_or.1 hfree
    refine ih (h.perform s) ?_ hrest
    rcases h.runningSince?_perform a s with ⟨now, i, -, -, -, hnone, -⟩ | ⟨hends', -⟩ | ⟨-, -, h'⟩
    · simp [ha] at hnone
    · exact absurd hends' hends
    · rw [h', ha]

end Switchboard.Registry.Coherent
