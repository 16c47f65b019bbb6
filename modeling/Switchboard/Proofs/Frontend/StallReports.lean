import Switchboard.Proofs.Frontend.Requests
import Switchboard.Proofs.Registry.Exclusion
import Switchboard.Proofs.Registry.Stamps

/-!
# Stall reports are true

A registry lists an action as stalled by its stamp, which no request ever looks at. That the warning
is true nevertheless, and the action will ignore requests until it is finished, follows from what the
stamp stands for: an action with a stamp is running, and a running action drops its requests
(`IsRunning.drops`), the holder of the dialog slot those of all dialogs besides
(`IsRunning.drops_dialog`). The stamp stays until the run is over, and so does all of this
(`stalled_drops_until_freed`).
-/

namespace Switchboard

namespace Registry

variable {H D : Type} {r : Registry H D} {a b : Action} {f g : Flags}

/-- At any time a request for the action is dropped because something is in flight, and changes
nothing. -/
def Drops (r : Registry H D) (a : Action) : Prop :=
  ∃ why : Refusal, why.outcome.isDropped = true ∧ ∀ now, r.judge a now = (.refused why, r)

/-- An action with a stamp is running. -/
theorem exists_isRunning {since : Nat} (h : r.runningSince? a = some since) :
    ∃ f, r.IsRunning a f := by
  obtain ⟨e, he, hs⟩ := Option.bind_eq_some_iff.1 h
  exact ⟨e.flags, e, he, rfl, by simp [hs]⟩

namespace IsRunning

/-- A run has the flags of its action's mapping. -/
theorem flags?_eq (ha : r.IsRunning a f) : r.flags? a = some f := by
  obtain ⟨e, he, rfl, -⟩ := ha
  rw [flags?, he]
  rfl

/-- Only an action whose runs have to be finished is running. -/
theorem needsFinish (ha : r.IsRunning a f) (h : r.Coherent) : f.needsFinish = true := by
  obtain ⟨e, he, rfl, hstamp⟩ := ha
  rw [← Bool.not_eq_false]
  intro hf
  simp [h.plain a e he hf] at hstamp

/-- While a dialog action is running, the requests of all dialog actions are dropped. -/
theorem drops_dialog (ha : r.IsRunning a f) (h : r.Coherent) (hd : f.dialog = true)
    (hg : r.flags? b = some g) (hgd : g.dialog = true) : r.Drops b := by
  obtain ⟨why, hwhy, hjudge⟩ := ha.judge_dialog h hd hg hgd
  refine ⟨why, ?_, hjudge⟩
  rcases hwhy with rfl | rfl <;> rfl

/-- While an action is running, its own requests are dropped. -/
theorem drops (ha : r.IsRunning a f) (h : r.Coherent) : r.Drops a := by
  by_cases hb : f.blocks = true
  · exact ⟨.busy, rfl, ha.judge_self h hb⟩
  · -- An action that does not block and is running has opened a dialog.
    have hd : f.dialog = true := by simpa [Flags.needsFinish, hb] using ha.needsFinish h
    exact ha.drops_dialog h hd ha.flags?_eq hd

end IsRunning

end Registry

open FrontendM Registry

/-- A frontend whose registry drops the requests for an action says so to whoever makes one, and
takes notice of it; all else stays. -/
theorem FrontendM.trigger?_of_drops {T : Type} {f : Frontend T}
    {r : Registry (Handler T) Dispatcher} (hr : f.registry = some r) {a : Action} (h : r.Drops a)
    (onMain : Bool) :
    ∃ why : Refusal, why.outcome.isDropped = true ∧
      (trigger? onMain a).result f = some why.outcome ∧
      (trigger? onMain a).after f = f.noticing [why.notice a] := by
  obtain ⟨why, hdropped, hjudge⟩ := h
  refine ⟨why, hdropped, ?_, ?_⟩
  · rw [trigger?, result_triggerWith, hr, Option.map_some, hjudge]
    rfl
  · exact after_triggerWith_of_refused _ hr (by rw [hjudge])

namespace Registry

variable {H D : Type}

/-- Stall reports are true. In every state that a new registry can get into, an action that is
listed as stalled, at any threshold, drops its requests without any change, and so it does after
whatever clients do as long as no step ends its run; if it holds the dialog slot, the requests of
all dialog actions are dropped over the same time; and all that time it stays listed. What a
registry drops is dropped by the frontend, which only takes notice of it. -/
theorem stalled_drops_until_freed (id capacity : Nat) (steps : List (Step H D))
    (threshold now : Nat) (a : Action)
    (ha : a ∈ (((new id capacity : Registry H D).run steps).stalled threshold now).map (·.action)) :
    let r : Registry H D := (new id capacity).run steps
    (∀ later, ¬ r.Frees a later →
      (r.run later).Drops a ∧
      (r.dialogOwner = some a → ∀ b f, (r.run later).flags? b = some f → f.dialog = true →
        (r.run later).Drops b) ∧
      ∀ now', now ≤ now' → a ∈ ((r.run later).stalled threshold now').map (·.action)) ∧
    ∀ {T : Type} (f : Frontend T) (q : Registry (Handler T) Dispatcher) (b : Action) (onMain : Bool),
      f.registry = some q → q.Drops b →
      ∃ why : Refusal, why.outcome.isDropped = true ∧
        (trigger? onMain b).result f = some why.outcome ∧
        (trigger? onMain b).after f = f.noticing [why.notice b] := by
  intro r
  have h : r.Coherent := (coherent_new id capacity).run steps
  obtain ⟨since, hsince, hage⟩ := h.action_mem_stalled_iff.1 ha
  obtain ⟨fl, hstalled⟩ := exists_isRunning hsince
  refine ⟨fun later hfree => ?_, fun f q b onMain hq hdrops => trigger?_of_drops hq hdrops onMain⟩
  -- The run goes on, with the stamp that it had.
  have h' : (r.run later).Coherent := h.run later
  have hrunning : (r.run later).IsRunning a fl := hstalled.run h.toWellFormed hfree
  have hsince' : (r.run later).runningSince? a = some since := h.runningSince?_run hsince hfree
  refine ⟨hrunning.drops h', fun ho b g hg hgd => ?_, fun now' hnow => ?_⟩
  · have hd : fl.dialog = true := ((h.dialogOwner_iff hstalled.flags?_eq).1 ho).1
    exact hrunning.drops_dialog h' hd hg hgd
  · exact h'.action_mem_stalled_iff.2 ⟨since, hsince', by omega⟩

/-- A registry in which the quit dialog is open and a soft reset is in flight. -/
def quitAndReset : List (Step Unit Unit) :=
  [.register [softReset, dialogFor .quit, dialogFor .aboutDialog], .setDispatcher (),
    .trigger .quit 0, .trigger .resetSoft 1]

/-- What clients do then: the reset is finished, an invocation of an earlier table is, and the
dialogs are requested. -/
def quitStays : List (Step Unit Unit) :=
  [.finish .resetSoft, .finishInvocation ⟨0, .quit, Flags.none.asDialog, (), 7⟩,
    .trigger .aboutDialog 8, .setDispatcher (), .trigger .quit 9]

/-- A quit dialog that is listed as stalled keeps itself and the dialog about the program from
opening, whatever else is finished, and it stays listed. -/
theorem stalled_quit_dialog_locks_out_dialogs :
    let r : Registry Unit Unit := (new 0 3).run quitAndReset
    .quit ∈ (r.stalled 5 6).map (·.action) ∧ (r.run quitStays).Drops .quit ∧
      (r.run quitStays).Drops .aboutDialog ∧
      .quit ∈ ((r.run quitStays).stalled 5 10).map (·.action) := by
  intro r
  have hstalled : .quit ∈ (r.stalled 5 6).map (·.action) := by decide
  have hfree : ¬ r.Frees .quit quitStays := by
    simp only [quitStays, Frees, Occurs, EndsRun]
    decide
  obtain ⟨hdrops, hdialogs, hlisted⟩ :=
    (stalled_drops_until_freed 0 3 quitAndReset 5 6 .quit hstalled).1 quitStays hfree
  exact ⟨hstalled, hdrops, hdialogs (by decide) .aboutDialog _ rfl rfl, hlisted 10 (by decide)⟩

end Registry

end Switchboard
