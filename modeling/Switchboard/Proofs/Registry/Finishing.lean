import Switchboard.Proofs.Registry.Recovery

/-!
# Finishing, in any order

To finish an action is to stop its entry, and to take the dialog slot from it if it holds it;
nothing else in the registry changes (`Coherent.finish_eq`). Finishing several actions is known by
which they are: all of their entries are stopped, and the slot is taken from its holder if that is
one of them (`Coherent.run_finishAll`). So it does not matter in which order actions are finished,
nor how often each of them (`Coherent.run_finishAll_congr`). `finishing_is_local` says all this of
every state that a new registry can get into, and that the finish of an invocation is that of its
action.
-/

namespace Switchboard.Registry

variable {H D : Type} {r : Registry H D}

/-- A finish changes the entry of its action, and does something to the dialog slot. -/
theorem WellFormed.finish_eq_updateEntry (h : r.WellFormed) (a : Action) :
    (r.finish a).2 =
      { r.updateEntry a (·.stop) with dialogOwner := (r.finish a).2.dialogOwner } := by
  cases he : r.lookup? a with
  | none =>
    have hentry : r.updateEntry a (·.stop) = r := by
      unfold Registry.updateEntry
      rw [h.index_eq_none_iff.2 he]
    have hfinish : (r.finish a).2 = r := by simp [Registry.finish, Registry.release, he]
    rw [hentry, hfinish]
  | some e =>
    unfold Registry.finish
    rw [release_of_lookup? he rfl]

/-- In the epoch of an invocation, to finish it is to finish its action. -/
theorem finishInvocation_eq_finish {i : Invocation H} (hi : i.epoch = r.epoch) :
    r.finishInvocation i = r.finish i.action := by
  have hcounts : (some i.epoch).any (· != r.epoch) = (none : Option Nat).any (· != r.epoch) := by
    simp [hi]
  unfold finishInvocation finish release
  rw [hcounts]

namespace Coherent

/-- A finish stops the entry of its action and takes the dialog slot from it, and changes nothing
else. -/
theorem finish_eq (h : r.Coherent) (a : Action) :
    (r.finish a).2 = { r with
      entries := r.entries.map fun e => if e.action = a then e.stop else e
      dialogOwner := if r.dialogOwner = some a then none else r.dialogOwner } := by
  have hslot : (r.finish a).2.dialogOwner =
      if r.dialogOwner = some a then none else r.dialogOwner := by
    have hrelease := h.dialogOwner_release a none
    simp only [Option.all_none, and_true] at hrelease
    exact hrelease
  rw [h.finish_eq_updateEntry, hslot, h.updateEntry_eq_map]

/-- Finishing actions stops their entries and takes the dialog slot from its holder if that is one
of them, and changes nothing else. -/
theorem run_finishAll (h : r.Coherent) (as : List Action) :
    r.run (finishAll as) = { r with
      entries := r.entries.map fun e => if e.action ∈ as then e.stop else e
      dialogOwner := r.dialogOwner.filter (· ∉ as) } := by
  induction as generalizing r with
  | nil =>
    have hslot : (r.dialogOwner.filter fun o => o ∉ ([] : List Action)) = r.dialogOwner := by
      cases r.dialogOwner <;> simp
    rw [hslot]
    simp [finishAll]
  | cons a as ih =>
    have hentries : ((r.entries.map fun e => if e.action = a then e.stop else e).map
        fun e => if e.action ∈ as then e.stop else e) =
          r.entries.map fun e => if e.action ∈ a :: as then e.stop else e := by
      rw [List.map_map]
      refine List.map_congr_left fun e _ => ?_
      -- An entry that is stopped stays bound to its action, and can be stopped again.
      by_cases ha : e.action = a <;> by_cases has : e.action ∈ as <;> simp [ha, has, Entry.stop]
    have hslot : ((if r.dialogOwner = some a then none else r.dialogOwner).filter (· ∉ as)) =
        r.dialogOwner.filter (· ∉ a :: as) := by
      cases r.dialogOwner with
      | none => rfl
      | some o => by_cases ho : o = a <;> simp [Option.filter_some, ho]
    -- The first finish leaves what the others find, so it is carried out before the induction.
    have hfinish : r.perform (.finish a) = _ := h.finish_eq a
    show (r.perform (.finish a)).run (finishAll as) = _
    rw [ih (h.perform (.finish a)), hfinish]
    dsimp only
    rw [hentries, hslot]

/-- Neither the order in which actions are finished matters nor how often each of them is. -/
theorem run_finishAll_congr (h : r.Coherent) {as bs : List Action}
    (hsame : ∀ a, a ∈ as ↔ a ∈ bs) : r.run (finishAll as) = r.run (finishAll bs) := by
  rw [h.run_finishAll, h.run_finishAll]
  simp only [hsame]

end Coherent

/-- Finishing is idempotent, local and independent of the order. In every state that a new registry
can get into, for every action, registered or not: to finish it twice is to finish it once; it can
be finished before or after any other, and lists of actions that have the same members can be
finished for one another; a finish clears the busy flag and the stamp of the action's entry, if it
has one, takes the dialog slot from the action if it is the holder, and changes nothing else; and to
finish an invocation of the action that is of the current epoch does the same and is told the same.
-/
theorem finishing_is_local (id capacity : Nat) (steps : List (Step H D)) (a : Action) :
    let r : Registry H D := (new id capacity).run steps
    ((r.finish a).2.finish a).2 = (r.finish a).2 ∧
      (∀ b, ((r.finish a).2.finish b).2 = ((r.finish b).2.finish a).2) ∧
      (∀ as bs, (∀ b, b ∈ as ↔ b ∈ bs) → r.run (finishAll as) = r.run (finishAll bs)) ∧
      (r.finish a).2 = { r with
        entries := r.entries.map fun e =>
          if e.action = a then { e with busy := false, runningSince := none } else e
        dialogOwner := if r.dialogOwner = some a then none else r.dialogOwner } ∧
      ∀ i : Invocation H, i.action = a → i.epoch = r.epoch →
        r.finishInvocation i = r.finish a := by
  intro r
  have h : r.Coherent := (coherent_new id capacity).run steps
  -- What has been finished is a set of actions, so neither their order nor their number counts.
  have htwice : ∀ b, b ∈ [a, a] ↔ b ∈ [a] := by simp
  have hswap : ∀ b c, c ∈ [a, b] ↔ c ∈ [b, a] := by simp [or_comm]
  refine ⟨h.run_finishAll_congr htwice, fun b => h.run_finishAll_congr (hswap b),
    fun as bs => h.run_finishAll_congr, h.finish_eq a, ?_⟩
  · rintro i rfl hi
    exact finishInvocation_eq_finish hi

end Switchboard.Registry
