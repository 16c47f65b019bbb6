import Switchboard.Action

/-!
# Dense tables over the actions

`Action.Table α` holds one value for each action, at the action's raw number. The registry keeps
the place of each mapping in one, and the watchdog the warnings it has given. `get_set_self`,
`get_set_ne` and `ext` are all that is needed to reason about them.
-/

namespace Switchboard

/-- One value for each action. -/
structure Action.Table (α : Type) where
  /-- The values, by raw number. -/
  cells : Vector α Action.count

namespace Action.Table

variable {α : Type}

/-- The table with one value everywhere. -/
def replicate (x : α) : Table α := ⟨Vector.replicate Action.count x⟩

/-- The value of an action. -/
def get (t : Table α) (a : Action) : α := t.cells[a.raw]

/-- The table with the value of one action replaced. -/
def set (t : Table α) (a : Action) (x : α) : Table α := ⟨t.cells.set a.raw x⟩

/-- In a table of one value every action has it. -/
@[simp] theorem get_replicate (x : α) (a : Action) : (replicate x).get a = x := by
  simp [replicate, get]

/-- An action has the value that was set for it. -/
@[simp] theorem get_set_self (t : Table α) (a : Action) (x : α) : (t.set a x).get a = x := by
  simp [set, get]

/-- The other actions keep theirs. -/
theorem get_set_ne (t : Table α) {a b : Action} (x : α) (h : a ≠ b) :
    (t.set a x).get b = t.get b := by
  have : (a.raw : Nat) ≠ b.raw := fun e => h (Action.raw_injective (Fin.ext e))
  simp [set, get, Vector.getElem_set_ne, this]

/-- Tables that agree on every action are equal. -/
theorem ext {s t : Table α} (h : ∀ a, s.get a = t.get a) : s = t := by
  obtain ⟨s⟩ := s
  obtain ⟨t⟩ := t
  congr 1
  apply Vector.ext
  intro i hi
  obtain ⟨a, ha⟩ : ∃ a, Action.ofRaw? i = some a :=
    ⟨Action.all.get ⟨i, by rw [Action.length_all]; exact hi⟩, by simp [Action.ofRaw?]⟩
  have hr := Action.ofRaw?_eq_some_iff.1 ha
  subst hr
  exact h a

end Action.Table

end Switchboard
