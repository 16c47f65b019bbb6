import Switchboard.Proofs.Frontend.Keeps

/-!
# Names and numbers that stand for actions

Hotkey files know an action by its name, other files by its number. Either is read back as the action
that it was written for and as no other, and what was written for no action is refused with an error
that carries it as it stands (`Action.parse_eq_error_iff`, `Action.checkRaw_eq_error_iff`). A request
by name is the request of the action with that name, or it is only noticed
(`FrontendM.after_triggerByName?_of_unknown`).
-/

namespace Switchboard

namespace Action

variable {s : String} {n : Nat} {a : Action} {e : ActionError}

/-- A text is read as no action exactly when it is the name of none. -/
theorem ofName?_eq_none_iff : ofName? s = none ↔ ∀ a : Action, a.name ≠ s := by
  simp only [Option.eq_none_iff_forall_ne_some, ne_eq, ofName?_eq_some_iff]

/-- A name is parsed as the action that has it. -/
theorem parse_eq_ok_iff : parse s = .ok a ↔ a.name = s := by
  rw [← ofName?_eq_some_iff]
  unfold parse
  cases ofName? s <;> simp

/-- The only error of a text is that it is no name, and the error carries the text. -/
theorem parse_eq_error_iff : parse s = .error e ↔ (∀ a : Action, a.name ≠ s) ∧ e = .unknownName s := by
  rw [← ofName?_eq_none_iff]
  unfold parse
  cases ofName? s <;> simp [eq_comm]

/-- A number is read as a real action exactly when it is the raw number of that action. -/
theorem ofRealRaw?_eq_some_iff : ofRealRaw? n = some a ↔ a.isReal = true ∧ a.raw.val = n := by
  unfold ofRealRaw?
  rw [Option.filter_eq_some_iff, ofRaw?_eq_some_iff, and_comm]

/-- A number stands for no action if no real one has it. -/
theorem ofRealRaw?_eq_none_iff :
    ofRealRaw? n = none ↔ ∀ a : Action, a.isReal = true → a.raw.val ≠ n := by
  simp only [Option.eq_none_iff_forall_ne_some, ne_eq, ofRealRaw?_eq_some_iff, not_and]

/-- A number is accepted as the real action that has it. -/
theorem checkRaw_eq_ok_iff : checkRaw n = .ok a ↔ a.isReal = true ∧ a.raw.val = n := by
  rw [← ofRealRaw?_eq_some_iff]
  unfold checkRaw
  cases ofRealRaw? n <;> simp

/-- The only error of a number is that it is that of no real action, and the error carries it. -/
theorem checkRaw_eq_error_iff :
    checkRaw n = .error e ↔ (∀ a : Action, a.isReal = true → a.raw.val ≠ n) ∧ e = .invalidId n := by
  rw [← ofRealRaw?_eq_none_iff]
  unfold checkRaw
  cases ofRealRaw? n <;> simp [eq_comm]

end Action

namespace FrontendM

variable {T : Type}

/-- To request an action by its name is to request the action. -/
theorem triggerByName?_name (onMain : Bool) (a : Action) :
    (triggerByName? onMain a.name : FrontendM T (Option Outcome)) = trigger? onMain a := by
  unfold triggerByName?
  rw [Action.parse_eq_ok_iff.2 rfl]

/-- A request by what is no name is answered as unknown and noticed, and nothing else happens. -/
theorem after_triggerByName?_of_unknown {s : String} (hs : ∀ a : Action, a.name ≠ s) (onMain : Bool)
    {f : Frontend T} {r : Registry (Handler T) Dispatcher} (hr : f.registry = some r) :
    (triggerByName? onMain s).result f = some .unknown ∧
      -- The name is looked up before the registry is asked, so the request goes no further.
      (triggerByName? onMain s).after f = f.noticing [.failed (.unknownName s)] := by
  have hparse : Action.parse s = .error (.unknownName s) := Action.parse_eq_error_iff.2 ⟨hs, rfl⟩
  have heq : (triggerByName? onMain s : FrontendM T (Option Outcome)) = do
      if (← get).registry.isNone then return none
      notify (.failed (.unknownName s))
      return some .unknown := by
    unfold triggerByName?
    rw [hparse]
  have hthere : f.registry.isNone = false := by rw [hr]; rfl
  rw [heq, ← after_notify]
  constructor
  · simp only [result_bind, result_get, after_get, hthere]
    rfl
  · simp only [after_bind, result_get, after_get, hthere]
    rfl

/-- Identifiers are read back exactly. A text is an action's exactly if it is the name of that action,
letter for letter, so that no two texts are one action's, and any other text is refused with an error
that carries it. A number is a real action's exactly if it is the raw number of that action, and any
other is refused with an error that carries it, those included that are greater than what sixteen bits
hold and would be an action's if they were cut to those; by raw numbers alone the reserved identifier
is found as well. And whatever state a frontend with a registry is in, a request by the name of an
action is told and does what the request of the action is told and does, and one by any other text is
told that it is unknown, and nothing comes of it but the notice that carries the text. -/
theorem identifiers_are_read_back :
    (∀ s a, Action.ofName? s = some a ↔ s = a.name) ∧
      (∀ s t a, Action.ofName? s = some a → Action.ofName? t = some a → s = t) ∧
      (∀ s a, Action.parse s = .ok a ↔ s = a.name) ∧
      (∀ s e, Action.parse s = .error e ↔ (∀ a : Action, s ≠ a.name) ∧ e = .unknownName s) ∧
      (∀ n a, Action.checkRaw n = .ok a ↔ a.isReal = true ∧ n = a.raw) ∧
      (∀ n e, Action.checkRaw n = .error e ↔
        (∀ a : Action, a.isReal = true → n ≠ a.raw) ∧ e = .invalidId n) ∧
      (∀ (a : Action) k, Action.checkRaw (a.raw + 65536 * (k + 1)) =
        .error (.invalidId (a.raw + 65536 * (k + 1)))) ∧
      (∀ n a, Action.ofRaw? n = some a ↔ n = a.raw) ∧
      ∀ (f : Frontend T) r onMain, f.registry = some r →
        (∀ a : Action, (triggerByName? onMain a.name).result f = (trigger? onMain a).result f ∧
          (triggerByName? onMain a.name).after f = (trigger? onMain a).after f) ∧
        ∀ s, (∀ a : Action, s ≠ a.name) →
          (triggerByName? onMain s).result f = some .unknown ∧
          (triggerByName? onMain s).after f = f.noticing [.failed (.unknownName s)] := by
  have hname : ∀ s a, Action.ofName? s = some a ↔ s = a.name := fun s a => by
    rw [Action.ofName?_eq_some_iff, eq_comm]
  refine ⟨hname, fun s t a hs ht => ?_, fun s a => ?_, fun s e => ?_, fun n a => ?_, fun n e => ?_,
    fun a k => ?_, fun n a => ?_, fun f r onMain hr => ⟨fun a => ?_, fun s hs => ?_⟩⟩
  · rw [(hname s a).1 hs, (hname t a).1 ht]
  · rw [Action.parse_eq_ok_iff, eq_comm]
  · simp only [Action.parse_eq_error_iff, ne_comm]
  · rw [Action.checkRaw_eq_ok_iff, eq_comm (a := n)]
  · simp only [Action.checkRaw_eq_error_iff, ne_comm (a := n)]
  -- All raw numbers are below the number of identifiers, which sixteen bits hold.
  · refine Action.checkRaw_eq_error_iff.2 ⟨fun b _ hb => ?_, rfl⟩
    have hlt : b.raw.val < Action.count := b.raw.isLt
    have hcount : Action.count ≤ 65536 := by decide
    omega
  · rw [Action.ofRaw?_eq_some_iff, eq_comm]
  · rw [triggerByName?_name]
    exact ⟨rfl, rfl⟩
  · exact after_triggerByName?_of_unknown (fun a => (hs a).symm) onMain hr

example : Action.parse "drive-attach-10:0" = .ok .driveAttach10 ∧
    Action.parse "Quit" = .error (.unknownName "Quit") ∧
    Action.checkRaw 65537 = .error (.invalidId 65537) := by
  decide

end FrontendM

end Switchboard
