import Switchboard.Proofs.Frontend.Requests

/-!
# Drains come to an end

A drain of a queue goes in rounds, and each round may find what the handlers of the round before
have sent. `FrontendM.drain` allows as many rounds as scripts may be run, and two more. `drain_empties`
shows that the number is never used up: when a drain is over, nothing waits in its queue, whatever
the handlers did.

Each round that leaves something has run a script, and counted it, before the limit on scripts was
reached; so the scripts that may still be run bound the rounds that are to come.
-/

namespace Switchboard

open FrontendM

variable {T : Type}

namespace Frontend

/-- What waits in a queue. -/
def waiting (f : Frontend T) (q : Nat) : List (Invocation (Handler T)) :=
  (f.queues[q]?.map (·.waiting)).getD []

/-- Neither the queues nor the count of scripts have changed. -/
def QueuesStay (f g : Frontend T) : Prop := g.queues = f.queues ∧ g.scriptRuns = f.scriptRuns

/-- Scripts that were counted are counted still, and no more of them are run than before. -/
structure ScriptsGrow (f g : Frontend T) : Prop where
  /-- The setup has not changed. -/
  setup : g.setup = f.setup
  /-- No script was forgotten. -/
  le : f.scriptRuns ≤ g.scriptRuns

/-- What neither runs nor sends anything leaves queues and scripts alone. -/
theorem chained_queuesStay : Chained (T := T) QueuesStay where
  refl _ := ⟨rfl, rfl⟩
  trans h h' := ⟨h'.1.trans h.1, h'.2.trans h.2⟩
  aside _ _ hq hs := ⟨hq, hs⟩
  registry _ _ := ⟨rfl, rfl⟩

/-- It forgets no script. -/
theorem chained_scriptsGrow : Chained (T := T) ScriptsGrow where
  refl _ := ⟨rfl, Nat.le_refl _⟩
  trans h h' := ⟨h'.setup.trans h.setup, Nat.le_trans h.le h'.le⟩
  aside hset _ _ hs := ⟨hset, Nat.le_of_eq hs.symm⟩
  registry _ _ := ⟨rfl, Nat.le_refl _⟩

/-- No handler forgets a script. -/
theorem closed_scriptsGrow : Closed (T := T) ScriptsGrow := by
  refine chained_scriptsGrow.closed (fun f => ⟨rfl, Nat.le_succ _⟩)
    (fun a _ => ⟨rfl, Nat.le_refl _⟩) ?_
  intro q i f
  rcases after_send q i f with ⟨queue, -, heq⟩ | ⟨-, heq⟩
  · rw [heq]
    exact ⟨rfl, Nat.le_refl _⟩
  · rw [heq]
    exact chained_scriptsGrow.trans (chained_scriptsGrow.notify _ f)
      (chained_scriptsGrow.finish i _)

end Frontend

namespace FrontendM

/-- A handler changes queues only if it is a script and the limit on scripts was not reached. -/
theorem queues_runInvocation (onMain : Bool) (i : Invocation (Handler T)) (f : Frontend T) :
    ((runInvocation onMain i).after f).queues = f.queues ∨
      (f.scriptRuns < f.setup.scriptLimit ∧
        f.scriptRuns < ((runInvocation onMain i).after f).scriptRuns) := by
  show ((runNested (f.setup.scriptLimit + 1) onMain i).after f).queues = f.queues ∨
    (_ ∧ _ < ((runNested (f.setup.scriptLimit + 1) onMain i).after f).scriptRuns)
  cases hi : i.handler with
  | command c =>
    unfold runNested
    rw [hi]
    exact .inl (Frontend.chained_queuesStay.perform i c f).1
  | script tag steps =>
    rw [after_runNested_script hi]
    split
    -- The script is counted before its steps, and no step of it forgets one.
    · rename_i hlt
      have hmono : Keeps Frontend.ScriptsGrow
          (steps.forM (step (runNested f.setup.scriptLimit onMain) i)) :=
        Frontend.closed_scriptsGrow.forM fun s => Frontend.closed_scriptsGrow.step
          (Frontend.closed_scriptsGrow.runNested f.setup.scriptLimit onMain) i s
      have hcount := hmono { f with
        events := f.events.push (.run i.action i.flags tag onMain), scriptRuns := f.scriptRuns + 1 }
      exact .inr ⟨hlt, hcount.le⟩
    · exact .inl rfl

/-- The frontend in which a drain runs the handler of what it has taken out of a queue. -/
def takenOut (f : Frontend T) (q : Nat) (i : Invocation (Handler T))
    (queue : UiQueue (Invocation (Handler T))) : Frontend T :=
  (notify (.uiRunning i.action)).after { f with queues := f.queues.set q queue }

/-- What one turn of a drain does: nothing if nothing waits, or it runs what has waited longest. -/
theorem after_runHead_succ (q n : Nat) (f : Frontend T) :
    (f.waiting q = [] ∧ (runHead q (n + 1)).after f = (runHead q n).after f) ∨
    ∃ i queue rest, f.queues[q]? = some queue ∧ queue.waiting = i :: rest ∧
      (runHead q (n + 1)).after f = (runHead q n).after
        ((runInvocation true i).after (takenOut f q i { queue with waiting := rest })) := by
  cases hq : f.queues[q]? with
  | none =>
    refine .inl ⟨by simp [Frontend.waiting, hq], ?_⟩
    simp only [runHead, after_bind, after_get, result_get, hq, Option.bind_none]
  | some queue =>
    cases hw : queue.waiting with
    | nil =>
      refine .inl ⟨by simp [Frontend.waiting, hq, hw], ?_⟩
      simp only [runHead, after_bind, after_get, result_get, hq, Option.bind_some, UiQueue.receive?,
        hw]
    | cons i rest =>
      refine .inr ⟨i, queue, rest, rfl, hw, ?_⟩
      simp only [runHead, after_bind, after_get, result_get, hq, Option.bind_some, UiQueue.receive?,
        hw, after_modify]
      rfl

/-- A round takes what it was meant to take out of a queue and leaves the rest, unless a script ran
in it before the limit was reached. -/
theorem runHead_progress (q n : Nat) (f : Frontend T) :
    Frontend.ScriptsGrow f ((runHead q n).after f) ∧
      (((runHead q n).after f).waiting q = (f.waiting q).drop n ∨
        (f.scriptRuns < f.setup.scriptLimit ∧
          f.scriptRuns < ((runHead q n).after f).scriptRuns)) := by
  induction n generalizing f with
  | zero => exact ⟨⟨rfl, Nat.le_refl _⟩, .inl rfl⟩
  | succ n ih =>
    rcases after_runHead_succ q n f with ⟨hw, heq⟩ | ⟨i, queue, rest, hq, hw, heq⟩
    · rw [heq]
      have := ih f
      rw [hw, List.drop_nil] at this ⊢
      exact this
    · rw [heq]
      -- What is taken out is the first of what waits, and the handler runs with the others in
      -- place.
      have hdrop : (f.waiting q).drop (n + 1) = rest.drop n := by
        simp [Frontend.waiting, hq, hw]
      have htaken : (takenOut f q i { queue with waiting := rest }).waiting q = rest := by
        have hlt := (List.getElem?_eq_some_iff.1 hq).1
        show ((f.queues.set q _)[q]?.map _).getD [] = rest
        rw [List.getElem?_set_self hlt]
        rfl
      generalize hg : (runInvocation true i).after
        (takenOut f q i { queue with waiting := rest }) = g
      have hmono : Frontend.ScriptsGrow f g := by
        have hrun := Frontend.closed_scriptsGrow.runInvocation true i
          (takenOut f q i { queue with waiting := rest })
        rw [hg] at hrun
        exact ⟨hrun.setup, hrun.le⟩
      -- Either the handler has left the queue alone, or it is a script that was counted.
      have hrun : g.waiting q = rest ∨
          (f.scriptRuns < f.setup.scriptLimit ∧ f.scriptRuns < g.scriptRuns) := by
        rcases queues_runInvocation true i (takenOut f q i { queue with waiting := rest }) with
          hsame | hscript
        · left
          rw [← htaken, ← hg]
          unfold Frontend.waiting
          rw [hsame]
        · exact .inr (hg ▸ hscript)
      obtain ⟨hgrow, hrest⟩ := ih g
      have hle := hmono.le
      have hle' := hgrow.le
      rw [hdrop]
      refine ⟨Frontend.chained_scriptsGrow.trans hmono hgrow, ?_⟩
      rcases hrun with hrun | ⟨hlt, hgt⟩
      · rw [hrun, hmono.setup] at hrest
        rcases hrest with hrest | ⟨hlt, hgt⟩
        · exact .inl hrest
        · exact .inr ⟨by omega, by omega⟩
      · exact .inr ⟨hlt, by omega⟩

/-- A drain of an empty queue does nothing. -/
theorem after_drainRounds_of_empty {q : Nat} {f : Frontend T} (hw : f.waiting q = [])
    (rounds : Nat) :
    (drainRounds q rounds).after f = f ∧ (drainRounds q rounds).result f = 0 := by
  cases rounds with
  | zero => exact ⟨rfl, rfl⟩
  | succ rounds =>
    have hn : (f.queues[q]?.map (·.pending)).getD 0 = 0 := by
      unfold Frontend.waiting at hw
      cases hq : f.queues[q]? with
      | none => rfl
      | some queue =>
        rw [hq] at hw
        simpa [UiQueue.pending] using hw
    constructor
    · simp only [drainRounds, after_bind, after_get, result_get, hn, if_true, after_pure]
    · simp only [drainRounds, result_bind, after_get, result_get, hn, if_true, result_pure]

/-- A drain that has something to take does a round and goes on. -/
theorem after_drainRounds_succ {q : Nat} {f : Frontend T} (hw : f.waiting q ≠ []) (rounds : Nat) :
    (drainRounds q (rounds + 1)).after f =
        (drainRounds q rounds).after ((runHead q (f.waiting q).length).after f) ∧
      (drainRounds q (rounds + 1)).result f = (f.waiting q).length +
        (drainRounds q rounds).result ((runHead q (f.waiting q).length).after f) := by
  have hn : (f.queues[q]?.map (·.pending)).getD 0 = (f.waiting q).length := by
    unfold Frontend.waiting
    cases f.queues[q]? <;> rfl
  have hpos : (f.waiting q).length ≠ 0 := fun h => hw (List.length_eq_zero_iff.1 h)
  constructor
  · simp only [drainRounds, after_bind, after_get, result_get, hn, if_neg hpos, after_pure]
  · simp only [drainRounds, result_bind, after_get, result_get, hn, if_neg hpos, result_pure]

/-- A drain may take as many rounds as scripts can be run, and two more. -/
theorem after_drain (q : Nat) (f : Frontend T) :
    (drain q).after f = (drainRounds q (f.setup.scriptLimit + 2)).after f := rfl

/-- It counts what these rounds have run. -/
theorem result_drain (q : Nat) (f : Frontend T) :
    (drain q).result f = (drainRounds q (f.setup.scriptLimit + 2)).result f := rfl

/-- Rounds enough for the scripts that may still be run empty a queue. -/
theorem drainRounds_empties {q rounds : Nat} {f : Frontend T}
    (hr : f.setup.scriptLimit - f.scriptRuns + 2 ≤ rounds) :
    ((drainRounds q rounds).after f).waiting q = [] := by
  induction rounds generalizing f with
  | zero => omega
  | succ rounds ih =>
    by_cases hw : f.waiting q = []
    · rw [(after_drainRounds_of_empty hw _).1]
      exact hw
    · rw [(after_drainRounds_succ hw rounds).1]
      obtain ⟨hgrow, hwait | ⟨hlt, hgt⟩⟩ := runHead_progress q (f.waiting q).length f
      · -- The round has left nothing, so the next one is the last.
        rw [List.drop_length] at hwait
        rw [(after_drainRounds_of_empty hwait rounds).1]
        exact hwait
      -- A script was counted in the round, so fewer rounds are needed from now on.
      · have hset := hgrow.setup
        exact ih (by rw [hset]; omega)

/-- When a drain is over nothing waits in its queue. -/
theorem drain_empties (q : Nat) (f : Frontend T) : ((drain q).after f).waiting q = [] := by
  rw [after_drain]
  exact drainRounds_empties (by omega)

end FrontendM

/-! ## What drains keep -/

section

variable {R : Frontend T → Frontend T → Prop} (h : Frontend.Closed R)
  (htaken : ∀ {f : Frontend T} {q : Nat} {i : Invocation (Handler T)}
    {queue : UiQueue (Invocation (Handler T))} {rest : List (Invocation (Handler T))},
    f.queues[q]? = some queue → queue.waiting = i :: rest →
    R f { f with queues := f.queues.set q { queue with waiting := rest } })

include h htaken

/-- A round of a drain keeps a relation if taking out what is run does. -/
theorem Frontend.Closed.runHead (q n : Nat) : Keeps R (runHead q n : FrontendM T Unit) := by
  induction n with
  | zero => exact h.pure ()
  | succ n ih =>
    intro f
    rcases after_runHead_succ q n f with ⟨-, heq⟩ | ⟨i, queue, rest, hq, hw, heq⟩
    · rw [heq]
      exact ih f
    · rw [heq]
      have htake : R f (takenOut f q i { queue with waiting := rest }) :=
        h.trans (htaken hq hw) (h.notify _ _)
      exact h.trans (h.trans htake (h.runInvocation true i _)) (ih _)

/-- Rounds of a drain keep it one after the other, until nothing waits. -/
theorem Frontend.Closed.drainRounds (q rounds : Nat) :
    Keeps R (drainRounds q rounds : FrontendM T Nat) := by
  induction rounds with
  | zero => exact h.pure 0
  | succ rounds ih =>
    intro f
    by_cases hw : f.waiting q = []
    · rw [(after_drainRounds_of_empty hw _).1]
      exact h.refl f
    · rw [(after_drainRounds_succ hw rounds).1]
      exact h.trans (h.runHead htaken q _ f) (ih _)

/-- Drains keep a relation that handlers keep, if taking something out of a queue keeps it. -/
theorem Frontend.Closed.drain (q : Nat) : Keeps R (drain q : FrontendM T Nat) :=
  fun f => h.drainRounds htaken q _ f

end

end Switchboard
