import Switchboard.Proofs.Registry.Lifecycle
import Switchboard.Proofs.Registry.Restart

/-!
# The first mapping of an action

Of all mappings that are offered for an action the first one since the table was last emptied is
the one that counts. An action's entry is made of it (`lookup?_run`), so every invocation of the
action has its handler and its flags (`firstFor?_of_accepted`), and what is offered later changes
nothing about an action that has an entry (`lookup?_register`).

What was offered is read off the steps of a run alone (`offered`). That the table agrees is a fact
about the machine of `Lifecycle`, in which mappings are offered and cleared by two of its moves and
left alone by the others, and it comes to the registry by `Realizes`.
-/

namespace Switchboard

/-- The first mapping for an action is one for it. -/
theorem Mapping.action_of_firstFor? {H : Type} {ms : List (Mapping H)} {a : Action}
    {m : Mapping H} (h : firstFor? ms a = some m) : m.action = a := by
  have hm := List.find?_some h
  simp only [Bool.and_eq_true, beq_iff_eq] at hm
  exact hm.2

/-- A mapping for an action is sought behind those of a list only if there is none in the list. -/
theorem Mapping.firstFor?_append {H : Type} (ms new : List (Mapping H)) (a : Action) :
    firstFor? (ms ++ new) a = (firstFor? ms a).or (firstFor? new a) :=
  List.find?_append

namespace Registry

variable {H D : Type}

/-- The mappings that have been offered since the table was last emptied, after one more step. -/
def Step.onOffer (ms : List (Mapping H)) : Step H D → List (Mapping H)
  | .register new => ms ++ new
  | .shutdown => []
  | _ => ms

/-- The mappings that have been offered since the table was last emptied, in order. -/
def offered (steps : List (Step H D)) : List (Mapping H) := steps.foldl Step.onOffer []

/-- The mappings of the machine are the first of those that were offered. -/
def Knows (s : Lifecycle H) (ms : List (Mapping H)) : Prop :=
  ∀ a, s.mapping a = (Mapping.firstFor? ms a).map fun m => (m.handler, m.flags)

/-- A move keeps what the machine knows in line with what was offered. -/
theorem Knows.perform {s : Lifecycle H} {ms : List (Mapping H)} (h : Knows s ms) (epoch : Nat)
    (x : Step H D) : Knows (s.run (x.move? epoch).toList) (x.onOffer ms) := by
  intro a
  cases x with
  | register new =>
    show (s.mapping a).or ((Mapping.firstFor? new a).map _) = _
    -- The new mappings come behind those of before, of which the first for an action is kept.
    rw [h a, Step.onOffer, Mapping.firstFor?_append]
    cases Mapping.firstFor? ms a <;> rfl
  | setDispatcher d => exact h a
  | trigger b now =>
    show (s.perform (.request b)).mapping a = _
    rw [(s.request_frame b).1]
    exact h a
  | finish b => exact h a
  | finishInvocation i =>
    simp only [Step.move?]
    split_ifs <;> exact h a
  | shutdown => rfl

/-- What is known after any steps is all that was offered in them. -/
theorem Knows.run {s : Lifecycle H} {ms : List (Mapping H)} (h : Knows s ms) (epoch : Nat)
    (steps : List (Step H D)) : Knows (s.run (moves epoch steps)) (steps.foldl Step.onOffer ms) := by
  induction steps generalizing s ms epoch with
  | nil => exact h
  | cons x steps ih =>
    rw [moves, Lifecycle.run_append]
    exact ih (h.perform epoch x) _

/-- The entry of an action is made of the first mapping that was offered for it since the table was
last emptied. -/
theorem lookup?_run (id capacity : Nat) (steps : List (Step H D)) (a : Action) :
    (((new id capacity : Registry H D).run steps).lookup? a).map (fun e => (e.handler, e.flags)) =
      (Mapping.firstFor? (offered steps) a).map fun m => (m.handler, m.flags) := by
  obtain ⟨hs, -⟩ := (realizes_new id capacity).run (coherent_new id capacity) steps
  have hknows : Knows (Lifecycle.empty.run (moves 0 steps)) (offered steps) :=
    Knows.run (fun _ => rfl) 0 steps
  exact (hs.mapping a).symm.trans (hknows a)

/-- What a request issues runs the first mapping that was offered for its action since the table was
last emptied. -/
theorem firstFor?_of_accepted {id capacity : Nat} {steps : List (Step H D)} {a : Action}
    {now : Nat} {i : Invocation H}
    (hi : ((new id capacity).run steps).accepted? (.trigger a now) = some i) :
    i.action = a ∧ Mapping.firstFor? (offered steps) a = some i.mapping := by
  have hwell : ((new id capacity : Registry H D).run steps).WellFormed :=
    (wellFormed_new id capacity).run steps
  have haction := hwell.action_of_accepted hi
  obtain ⟨e, he, -, rfl⟩ := accepted?_trigger_iff.1 hi
  have hfirst := lookup?_run id capacity steps a
  rw [he, Option.map_some] at hfirst
  obtain ⟨m, hm, heq⟩ := Option.map_eq_some_iff.1 hfirst.symm
  obtain ⟨hhandler, hflags⟩ := Prod.mk.inj heq
  refine ⟨haction, hm.trans (congrArg some ?_)⟩
  -- The mapping has the action, the handler and the flags of the invocation.
  calc m = ⟨m.action, m.handler, m.flags⟩ := rfl
    _ = ⟨e.action, e.handler, e.flags⟩ := by
        rw [Mapping.action_of_firstFor? hm, hhandler, hflags, hwell.action_of_lookup? he]
    _ = ((Registry.run (new id capacity) steps).issue e).mapping := rfl

/-- An action that has an entry keeps it whole, whatever mappings are offered: its handler, its
flags, its busy flag and its stamp. -/
theorem WellFormed.lookup?_register {r : Registry H D} (h : r.WellFormed) {a : Action}
    {e : Entry H} (he : r.lookup? a = some e) (ms : List (Mapping H)) :
    (r.register ms).2.lookup? a = some e := by
  show (r.enrolWhere (fun _ => true) ms).2.lookup? a = some e
  rw [h.lookup?_enrolWhere, he]
  rfl

end Registry

end Switchboard
