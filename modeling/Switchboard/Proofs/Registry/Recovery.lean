import Switchboard.Proofs.Registry.Exclusion

/-!
# Nothing stays taken for good

Whatever clients have done with a registry, finishing is enough to get an action back. The holder of
the dialog slot is a registered dialog action in every state that a new registry can get into
(`Coherent.owner_iff`), so that finishing it gives the slot back; and finishing an action makes it
idle. What finishing some actions does is said once for any list of them (`lookup?_finishAll`,
`dialogOwner_finishAll`), and `finishing_recovers` says it of the holder of the slot and an action.
-/

namespace Switchboard.Registry

variable {H D : Type} {r : Registry H D}

/-- The steps that finish the actions of a list, in order. -/
def finishAll (as : List Action) : List (Step H D) := as.map .finish

/-- The actions that have to be finished for an action to be free: the holder of the dialog slot, if
there is one, and the action itself. -/
def inTheWay (r : Registry H D) (a : Action) : List Action := r.dialogOwner.toList ++ [a]

/-! ## Finishing the actions of a list -/

/-- To finish actions stops their runs and changes no other entry. -/
theorem WellFormed.lookup?_finishAll (h : r.WellFormed) (as : List Action) (b : Action) :
    (r.run (finishAll as)).lookup? b =
      if b ∈ as then (r.lookup? b).map (·.stop) else r.lookup? b := by
  induction as generalizing r with
  | nil => simp [finishAll]
  | cons a as ih =>
    have hone : (r.perform (.finish a)).lookup? b =
        if b = a then (r.lookup? b).map (·.stop) else r.lookup? b := h.lookup?_finish a b
    show ((r.perform (.finish a)).run (finishAll as)).lookup? b = _
    rw [ih (h.perform (.finish a)), hone]
    by_cases ha : b = a
    · -- If it is finished once more nothing changes.
      have htwice : ((r.lookup? b).map (·.stop)).map (·.stop) = (r.lookup? b).map (·.stop) := by
        rw [Option.map_map]
        rfl
      rw [if_pos ha, if_pos (List.mem_cons.2 (.inl ha)), htwice, ite_self]
    · rw [if_neg ha]
      simp only [List.mem_cons, ha, false_or]

/-- Only a holder of the dialog slot that is not among the finished actions keeps it. -/
theorem Coherent.dialogOwner_finishAll (h : r.Coherent) (as : List Action) (b : Action) :
    (r.run (finishAll as)).dialogOwner = some b ↔ r.dialogOwner = some b ∧ b ∉ as := by
  rw [(h.run (finishAll as)).owner_iff, h.owner_iff, h.lookup?_finishAll]
  by_cases hb : b ∈ as
  · -- An entry that was stopped has no stamp.
    rw [if_pos hb]
    simp [hb, Entry.stop]
  · rw [if_neg hb]
    simp [hb]

/-- To finish actions leaves the dispatcher. -/
theorem dispatcher_finishAll (r : Registry H D) (as : List Action) :
    (r.run (finishAll as)).dispatcher = r.dispatcher := by
  induction as generalizing r with
  | nil => rfl
  | cons a as ih => exact (ih _).trans (release_frame r a none).1

/-! ## An action that is free -/

/-- While an action is idle and the dialog slot is free, a request for it is accepted exactly if
something leads to the UI thread or the action does not have to run there. -/
theorem isAccepted_judge_of_free {a : Action} {e : Entry H} (he : r.lookup? a = some e)
    (hidle : e.busy = false) (hslot : r.dialogOwner = none) (now : Nat) :
    (r.judge a now).1.outcome.isAccepted = true ↔
      (e.flags.needsUiThread = true → r.hasDispatcher = true) := by
  have hrefusal :
      r.refusal? e = none ↔ (e.flags.needsUiThread = true → r.hasDispatcher = true) := by
    rw [refusal?_eq_none_iff]
    exact ⟨fun h => h.2.2, fun h => ⟨fun _ => hidle, fun _ => hslot, h⟩⟩
  rw [Admission.isAccepted_outcome, ← hrefusal, Option.isSome_iff_exists]
  constructor
  · rintro ⟨i, hi⟩
    obtain ⟨e', he', hr, -⟩ := accepted?_trigger_iff.1 hi
    obtain rfl := Option.some.inj (he.symm.trans he')
    exact hr
  · intro hr
    exact ⟨r.issue e, accepted?_trigger_iff.2 ⟨e, he, hr, rfl⟩⟩

/-- No action can be lost for good. In every state that a new registry can get into, for every
registered action: when the holder of the dialog slot, if there is one, has been finished and then
the action, the action is idle, the slot is free, the entry of every other action is what it was,
and the next request for the action is accepted, unless the action has to run on the UI thread and
nothing leads there. -/
theorem finishing_recovers (id capacity : Nat) (steps : List (Step H D)) (a : Action)
    (ha : ((new id capacity : Registry H D).run steps).isRegistered a = true) :
    let r : Registry H D := (new id capacity).run steps
    let r' := r.run (finishAll (r.inTheWay a))
    r'.isBusy a = false ∧ r'.runningSince? a = none ∧ r'.dialogOwner = none ∧
      (∀ b, b ≠ a → r.dialogOwner ≠ some b → r'.lookup? b = r.lookup? b) ∧
      ∃ f, r.flags? a = some f ∧ ∀ now, (r'.judge a now).1.outcome.isAccepted = true ↔
        (f.uithread = true ∨ f.dialog = true → r.hasDispatcher = true) := by
  intro r r'
  have h : r.Coherent := (coherent_new id capacity).run steps
  obtain ⟨e, he⟩ : ∃ e, r.lookup? a = some e :=
    Option.isSome_iff_exists.1 ((h.isRegistered_eq a).symm.trans ha)
  have hlookup := h.lookup?_finishAll (r.inTheWay a)
  have hentry : r'.lookup? a = some e.stop := by
    show (r.run (finishAll (r.inTheWay a))).lookup? a = _
    rw [hlookup, if_pos (by simp [inTheWay]), he]
    rfl
  have hslot : r'.dialogOwner = none := by
    refine Option.eq_none_iff_forall_ne_some.2 fun b hb => ?_
    obtain ⟨ho, hnot⟩ := (h.dialogOwner_finishAll _ b).1 hb
    exact hnot (by simp [inTheWay, ho])
  have hdispatcher : r'.hasDispatcher = r.hasDispatcher :=
    congrArg Option.isSome (dispatcher_finishAll r (r.inTheWay a))
  refine ⟨by simp [isBusy, hentry, Entry.stop], by simp [runningSince?, hentry, Entry.stop], hslot,
    fun b hb ho => ?_, e.flags, by simp [flags?, he], fun now => ?_⟩
  · refine (hlookup b).trans (if_neg ?_)
    -- What is finished is the action and the holder of the slot.
    simp [inTheWay, hb, ho]
  · rw [isAccepted_judge_of_free hentry rfl hslot, hdispatcher]
    simp [Entry.stop, Flags.needsUiThread]

/-- A registry that was emptied and filled again, in which the leaving dialog is open, a soft reset
is in flight and the about dialog was dropped. -/
def jammed : List (Step Unit Unit) :=
  [.register [dialogFor .quit], .setDispatcher (), .trigger .quit 0, .shutdown,
    .register [softReset, dialogFor .quit, dialogFor .aboutDialog], .setDispatcher (),
    .trigger .quit 1, .trigger .resetSoft 2, .trigger .aboutDialog 3]

/-- When the leaving dialog has been finished, and the about dialog, the latter can be opened, and
the soft reset is still in flight. -/
theorem about_dialog_recovers :
    let r : Registry Unit Unit := (new 0 1).run jammed
    let r' := r.run (finishAll (r.inTheWay .aboutDialog))
    r.isRegistered .aboutDialog = true ∧ r.dialogOwner = some .quit ∧ r'.dialogOwner = none ∧
      r'.lookup? .resetSoft = r.lookup? .resetSoft ∧ r'.isBusy .resetSoft = true ∧
      (r'.judge .aboutDialog 4).1.outcome.isAccepted = true := by
  have ha : ((new 0 1 : Registry Unit Unit).run jammed).isRegistered .aboutDialog = true := by
    decide
  obtain ⟨-, -, hslot, hothers, f, -, hnext⟩ := finishing_recovers 0 1 jammed .aboutDialog ha
  exact ⟨ha, by decide, hslot, hothers .resetSoft (by decide) (by decide), by decide,
    (hnext 4).2 fun _ => by decide⟩

end Switchboard.Registry
