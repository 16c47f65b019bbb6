import Switchboard.Proofs.Registry.Exclusion

/-!
# Whose run a finished invocation ends

An invocation is told from a later one of the same action by the epoch alone, and the epoch changes
only when the table is emptied. So an invocation that is finished once more, after its action was
requested again, leaves the later run alone if the table was emptied in between, and ends it if not
(`late_finish_keeps_run_iff`).
-/

namespace Switchboard.Registry

variable {H D : Type}

/-- Two registries have the same records of what is running, as far as one action goes. -/
structure SameRecords (r r' : Registry H D) (a : Action) : Prop where
  /-- The busy flag of the action. -/
  busy : r'.isBusy a = r.isBusy a
  /-- The stamp of the action. -/
  stamp : r'.runningSince? a = r.runningSince? a
  /-- The dialog slot. -/
  slot : r'.dialogOwner = r.dialogOwner

/-- The epoch after a run is the one before exactly if the table was not emptied. -/
theorem epoch_run (r : Registry H D) (steps : List (Step H D)) :
    r.epoch ≤ (r.run steps).epoch ∧ ((r.run steps).epoch = r.epoch ↔ .shutdown ∉ steps) := by
  induction steps generalizing r with
  | nil => simp
  | cons s steps ih =>
    obtain ⟨hle, hiff⟩ := ih (r.perform s)
    rw [run_cons, List.mem_cons, not_or]
    rcases r.epoch_perform s with ⟨rfl, he⟩ | ⟨hs, he⟩
    · rw [he] at hle
      exact ⟨by omega, by constructor <;> [omega; exact fun h => absurd rfl h.1]⟩
    · rw [he] at hle hiff
      exact ⟨hle, hiff.trans ⟨fun h => ⟨Ne.symm hs, h⟩, And.right⟩⟩

/-- A run that ends no run of an action does not empty the table. -/
theorem shutdown_notMem_of_not_frees {r : Registry H D} {a : Action} {steps : List (Step H D)}
    (h : ¬ r.Frees a steps) : .shutdown ∉ steps := by
  intro hmem
  obtain ⟨before, after, rfl⟩ := List.append_of_mem hmem
  exact h (occurs_iff.2 ⟨before, _, after, rfl, trivial⟩)

/-- An action keeps its handler and flags until the table is emptied. -/
theorem WellFormed.run_keeps_mapping {r : Registry H D} (h : r.WellFormed) {a : Action}
    {e : Entry H} (he : r.lookup? a = some e) {steps : List (Step H D)} (hs : .shutdown ∉ steps) :
    ∃ e', (r.run steps).lookup? a = some e' ∧ e'.flags = e.flags ∧ e'.handler = e.handler := by
  induction steps generalizing r e with
  | nil => exact ⟨e, he, rfl, rfl⟩
  | cons s steps ih =>
    rw [List.mem_cons, not_or] at hs
    obtain ⟨e₁, he₁, hf₁, hh₁⟩ := h.perform_keeps_mapping he (Ne.symm hs.1)
    obtain ⟨e₂, he₂, hf₂, hh₂⟩ := ih (h.perform s) he₁ hs.2
    exact ⟨e₂, he₂, hf₂.trans hf₁, hh₂.trans hh₁⟩

/-- A request leaves the epoch. -/
theorem epoch_trigger (r : Registry H D) (a : Action) (now : Nat) :
    (r.perform (.trigger a now)).epoch = r.epoch :=
  ((r.epoch_perform _).resolve_left (by simp)).2

/-- While a run that was accepted later is not over, the epoch is that of an earlier request exactly
if the table was not emptied between the two. -/
theorem epoch_eq_iff_of_not_frees (r : Registry H D) {a b : Action} {t u : Nat}
    (mid : List (Step H D)) {after : List (Step H D)}
    (hfree : ¬ (((r.perform (.trigger a t)).run mid).perform (.trigger b u)).Frees b after) :
    r.epoch = ((((r.perform (.trigger a t)).run mid).perform (.trigger b u)).run after).epoch ↔
      .shutdown ∉ mid := by
  have hafter : ((((r.perform (.trigger a t)).run mid).perform (.trigger b u)).run after).epoch =
      ((r.perform (.trigger a t)).run mid).epoch :=
    ((epoch_run _ after).2.2 (shutdown_notMem_of_not_frees hfree)).trans (epoch_trigger _ _ _)
  have hmid := (epoch_run (r.perform (.trigger a t)) mid).2
  rw [epoch_trigger] at hmid
  rw [hafter, ← hmid]
  exact eq_comm

/-- A run that is not over has the entry of its action, with a stamp if it has to be finished. -/
theorem WellFormed.lookup?_of_not_frees {r : Registry H D} (h : r.WellFormed) {a : Action} {u : Nat}
    {i : Invocation H} (hi : r.accepted? (.trigger a u) = some i) {after : List (Step H D)}
    (hfree : ¬ (r.perform (.trigger a u)).Frees a after) :
    ∃ e, ((r.perform (.trigger a u)).run after).lookup? a = some e ∧ e.flags = i.flags ∧
      (i.flags.needsFinish = true → e.runningSince.isSome = true) := by
  obtain ⟨e₁, he₁, hr₁, rfl⟩ := accepted?_trigger_iff.1 hi
  have hbegun : (r.perform (.trigger a u)).lookup? a = some (e₁.start u) := by
    rw [perform_trigger_of_accepted u he₁ hr₁, h.lookup?_begin he₁, if_pos rfl]
  obtain ⟨e₂, he₂, hf₂, -⟩ := (h.perform _).run_keeps_mapping hbegun
    (shutdown_notMem_of_not_frees hfree)
  -- The stamp is that of the run that was accepted, which has not been ended.
  refine ⟨e₂, he₂, hf₂, fun hf => ?_⟩
  obtain ⟨e', he', -, hstamp⟩ := (h.isRunning_of_accepted hi hf).run (h.perform _) hfree
  rw [Option.some.inj (he₂.symm.trans he')]
  exact hstamp

/-! ## Finishing an invocation any number of times -/

/-- The registry after an invocation has been finished a number of times. -/
def finishTimes (r : Registry H D) (i : Invocation H) (n : Nat) : Registry H D :=
  r.run (List.replicate n (.finishInvocation i))

/-- An invocation of another epoch is finished without effect. -/
theorem perform_finishInvocation_of_epoch_ne {r : Registry H D} {i : Invocation H}
    (h : i.epoch ≠ r.epoch) : r.perform (.finishInvocation i) = r := by
  simp [perform, finishInvocation, release, h]

/-- To finish an invocation of another epoch has no effect, however often. -/
theorem finishTimes_of_epoch_ne {r : Registry H D} {i : Invocation H} (h : i.epoch ≠ r.epoch)
    (n : Nat) : r.finishTimes i n = r := by
  induction n with
  | zero => rfl
  | succ n ih =>
    rw [finishTimes, List.replicate_succ, run_cons, perform_finishInvocation_of_epoch_ne h]
    exact ih

/-- An invocation of the epoch ends the run of its action when it is finished, and finishing it
again adds nothing. -/
theorem WellFormed.lookup?_finishTimes {r : Registry H D} (h : r.WellFormed) {i : Invocation H}
    (hi : i.epoch = r.epoch) (n : Nat) :
    (r.finishTimes i (n + 1)).lookup? i.action = (r.lookup? i.action).map (·.stop) := by
  induction n generalizing r with
  | zero =>
    show (r.finishInvocation i).2.lookup? i.action = _
    rw [h.lookup?_finishInvocation, if_pos ⟨rfl, hi⟩]
  | succ n ih =>
    have hi' : i.epoch = (r.perform (.finishInvocation i)).epoch := by
      rw [hi, ((r.epoch_perform _).resolve_left (by simp)).2]
    have hfirst : (r.perform (.finishInvocation i)).lookup? i.action =
        (r.lookup? i.action).map (·.stop) := by
      show (r.finishInvocation i).2.lookup? i.action = _
      rw [h.lookup?_finishInvocation, if_pos ⟨rfl, hi⟩]
    rw [finishTimes, List.replicate_succ, run_cons]
    exact (ih (h.perform _) hi').trans (by rw [hfirst, Option.map_map]; rfl)

/-- Finishing an invocation leaves the dialog slot to its holder if that is another action, or if
there is none. -/
theorem Coherent.dialogOwner_finishTimes {r : Registry H D} (h : r.Coherent) {i : Invocation H}
    (hne : r.dialogOwner ≠ some i.action) (n : Nat) :
    (r.finishTimes i n).dialogOwner = r.dialogOwner := by
  induction n generalizing r with
  | zero => rfl
  | succ n ih =>
    have hfirst : (r.perform (.finishInvocation i)).dialogOwner = r.dialogOwner := by
      show (r.release i.action (some i.epoch)).2.dialogOwner = _
      rw [h.dialogOwner_release, if_neg fun ho => hne ho.1]
    rw [finishTimes, List.replicate_succ, run_cons]
    exact (ih (h.perform _) (by rw [hfirst]; exact hne)).trans hfirst

/-- Nothing is recorded of an action that is not running, so finishing an invocation of it changes
no record. -/
theorem Coherent.sameRecords_finishTimes {r : Registry H D} (h : r.Coherent) {i : Invocation H}
    (hi : i.epoch = r.epoch) {e : Entry H} (he : r.lookup? i.action = some e)
    (hidle : e.runningSince = none) (n : Nat) :
    SameRecords r (r.finishTimes i (n + 1)) i.action := by
  have hbusy : e.busy = false := by rw [h.busy_eq _ e he, hidle]; simp
  have he' : (r.finishTimes i (n + 1)).lookup? i.action = some e.stop := by
    rw [h.lookup?_finishTimes hi, he]; rfl
  exact {
    busy := by simp [isBusy, he, he', hbusy, Entry.stop]
    stamp := by simp [runningSince?, he, he', hidle, Entry.stop]
    slot := h.dialogOwner_finishTimes (h.owner_ne_of_idle he hidle) _ }

/-- What finishing an earlier invocation of an action any number of times does to a later run of the
action that is not over. The records of the run stay as they are exactly if the table was emptied
after the earlier invocation was issued, and then the whole registry stays as it is, or if nothing
was recorded of the run; otherwise the run is ended. -/
theorem late_finish_keeps_run_iff (id capacity : Nat) (before mid after : List (Step H D))
    (a : Action) (t u : Nat) (earlier later : Invocation H) (n : Nat) :
    let r : Registry H D := (new id capacity).run before
    let r₁ := (r.perform (.trigger a t)).run mid
    let r₂ := (r₁.perform (.trigger a u)).run after
    let r₃ := r₂.finishTimes earlier (n + 1)
    r.accepted? (.trigger a t) = some earlier → r₁.accepted? (.trigger a u) = some later →
    ¬ (r₁.perform (.trigger a u)).Frees a after →
    (SameRecords r₂ r₃ a ↔ .shutdown ∈ mid ∨ later.flags.needsFinish = false) ∧
      (.shutdown ∈ mid → r₃ = r₂) ∧
      (.shutdown ∉ mid →
        r₃.isBusy a = false ∧ r₃.runningSince? a = none ∧ r₃.dialogOwner ≠ some a) := by
  intro r r₁ r₂ r₃ hearlier hlater hfree
  have h : r.Coherent := (coherent_new id capacity).run before
  have h₁ : r₁.Coherent := (h.perform _).run mid
  have h₂ : r₂.Coherent := (h₁.perform _).run after
  have h₃ : r₃.Coherent := h₂.run _
  obtain ⟨e, he, -, rfl⟩ := accepted?_trigger_iff.1 hearlier
  obtain rfl : e.action = a := h.action_of_lookup? he
  have hepoch : r.epoch = r₂.epoch ↔ .shutdown ∉ mid := epoch_eq_iff_of_not_frees r mid hfree
  by_cases hmid : .shutdown ∈ mid
  · -- The invocation is stale, and finishing it has no effect.
    have hsame : r₃ = r₂ := finishTimes_of_epoch_ne (fun heq => hepoch.1 heq hmid) _
    refine ⟨⟨fun _ => .inl hmid, fun _ => ?_⟩, fun _ => hsame, fun h => absurd hmid h⟩
    rw [hsame]
    exact ⟨rfl, rfl, rfl⟩
  · -- The epoch is the same, so finishing it ends whatever run of the action there is.
    have hi : (r.issue e).epoch = r₂.epoch := hepoch.2 hmid
    obtain ⟨e₂, he₂, hf₂, hstamp⟩ := h₁.toWellFormed.lookup?_of_not_frees hlater hfree
    replace he₂ : r₂.lookup? (r.issue e).action = some e₂ := he₂
    have he₃ : r₃.lookup? (r.issue e).action = some e₂.stop := by
      show (r₂.finishTimes (r.issue e) (n + 1)).lookup? _ = _
      rw [h₂.lookup?_finishTimes hi, he₂]
      rfl
    refine ⟨⟨fun hsame => .inr ?_, fun hkeeps => ?_⟩, fun h => absurd h hmid, fun _ => ?_⟩
    · have hnone : e₂.runningSince = none := by
        have := hsame.stamp
        unfold runningSince? at this
        rw [show r₂.lookup? e.action = _ from he₂, show r₃.lookup? e.action = _ from he₃] at this
        exact this.symm
      cases hf : later.flags.needsFinish with
      | false => rfl
      | true => simpa [hnone] using hstamp hf
    · have hidle : e₂.runningSince = none :=
        h₂.plain _ e₂ he₂ (by rw [hf₂]; exact hkeeps.resolve_left hmid)
      exact h₂.sameRecords_finishTimes hi he₂ hidle n
    · exact ⟨by simp [isBusy, show r₃.lookup? e.action = _ from he₃, Entry.stop],
        by simp [runningSince?, show r₃.lookup? e.action = _ from he₃, Entry.stop],
        h₃.owner_ne_of_idle he₃ rfl⟩

/-- The invocation of the soft reset that registry 0 issues in an epoch. -/
def softResetIn (epoch : Nat) : Invocation Unit := ⟨0, .resetSoft, Flags.none.blocking, (), epoch⟩

/-- An invocation of the first table that is finished twice leaves the run in the second alone. -/
theorem late_finish_spares_next_table :
    let r₁ : Registry Unit Unit := (new 0 1).run
      [.register [softReset], .trigger .resetSoft 0, .shutdown, .register [softReset]]
    let r₂ := r₁.perform (.trigger .resetSoft 1)
    r₁.accepted? (.trigger .resetSoft 1) = some (softResetIn 1) ∧
      r₂.isBusy .resetSoft = true ∧ SameRecords r₂ (r₂.finishTimes (softResetIn 0) 2) .resetSoft :=
  ⟨rfl, rfl, (late_finish_keeps_run_iff 0 1 [.register [softReset]]
    [.shutdown, .register [softReset]] [] .resetSoft 0 1 (softResetIn 0) (softResetIn 1) 1
    rfl rfl not_false).1.2 (.inl (by simp))⟩

/-- Within one table a late finish does not leave a later run alone: the soft reset is requested,
finished by its identifier and requested again, and finishing the first invocation makes it idle. -/
theorem late_finish_ends_next_run :
    ¬ ∀ (before mid after : List (Step Unit Unit)) (a : Action) (t u n : Nat)
      (earlier later : Invocation Unit),
      let r := (new 0 1).run before
      let r₁ := (r.perform (.trigger a t)).run mid
      let r₂ := (r₁.perform (.trigger a u)).run after
      r.accepted? (.trigger a t) = some earlier → (r.perform (.trigger a t)).Frees a mid →
      r₁.accepted? (.trigger a u) = some later → ¬ (r₁.perform (.trigger a u)).Frees a after →
      SameRecords r₂ (r₂.finishTimes earlier n) a := by
  intro h
  have hbusy := (h [.register [softReset]] [.finish .resetSoft] [] .resetSoft 0 1 1 (softResetIn 0)
    (softResetIn 0) rfl (.inl rfl) rfl not_false).busy
  revert hbusy
  decide

end Switchboard.Registry
