import Mathlib.Algebra.Order.Group.Multiset
import Mathlib.Tactic.Abel
import Switchboard.Proofs.Workplace.Session

/-!
# One dialog at a time

The dialog slot is kept by the registry, an invocation of a dialog action is carried by a client,
waits in the queue or is in the hands of the UI thread, and the dialog itself is with the host.
`one_dialog_at_a_time` accounts for them together: at every moment there is one of these if the slot
is taken and none if it is free, and it belongs to the action that holds the slot.

The account is the multiset of the actions that these belong to, `modal`. A turn moves one of them on,
adds one while the slot is taken, or takes one away while the slot is given back.
-/

namespace Switchboard

/-- The dialog that an action opens, if it opens one. -/
def Action.dialogKind? : Action → Option DialogKind
  | .quit => some .confirmQuit
  | .settingsDialog => some .settings
  | .aboutDialog => some .about
  | .monitorOpen => some .monitor
  | .speedSettings => some .speedSettings
  | .driveAttach8 => some (.attachDisk 8)
  | .driveAttach9 => some (.attachDisk 9)
  | .driveAttach10 => some (.attachDisk 10)
  | .driveAttach11 => some (.attachDisk 11)
  | .smartAttach => some .smartAttach
  | .hotkeysLoad => some .loadHotkeys
  | .hotkeysSave => some .saveHotkeys
  | _ => none

/-- The command of every mapping opens the dialog of its action, or none. -/
theorem Domain.dialog?_eq_dialogKind? :
    ∀ m ∈ allMappings, m.handler.dialog?.map (·.1) = m.action.dialogKind? := by decide

/-- A request that was asked for is for the dialog of its action. -/
theorem Asked.dialogKind?_action {T : Type} {machine : Machine} {request : DialogRequest (Handler T)}
    (h : Asked machine request) : request.invocation.action.dialogKind? = some request.kind := by
  obtain ⟨m, hm⟩ := h.issued.exists_performs
  have hcommand : m.handler = .openDialog request.kind request.onAccept :=
    Handler.command.inj (hm.handler.symm.trans h.handler)
  rw [hm.action, ← Domain.dialog?_eq_dialogKind? m hm.mem, hcommand]
  rfl

namespace Workplace

open FrontendM

variable {T : Type} {machine : Machine} {w : Workplace T}

/-- The actions of the invocations in a list that open dialogs. -/
def dialogsIn (is : List (Invocation (Handler T))) : Multiset Action :=
  (is.filter (·.flags.dialog)).map (·.action)

/-- The actions that requests for dialogs belong to. -/
def openers (requests : List (DialogRequest (Handler T))) : Multiset Action :=
  requests.map (·.invocation.action)

/-- The actions of all that is on its way to a dialog or is one. -/
def modal (w : Workplace T) : Multiset Action :=
  dialogsIn (w.carried.map (·.2)) + dialogsIn (w.frontend.waiting 0) + dialogsIn w.taken +
    dialogsIn w.called + openers w.frontend.dialogs + openers w.closing

/-- What two lists hold of dialogs is what each of them does. -/
@[simp] theorem dialogsIn_append (is js : List (Invocation (Handler T))) :
    dialogsIn (is ++ js) = dialogsIn is + dialogsIn js := by
  simp [dialogsIn]

/-- The first of a list counts for itself. -/
@[simp] theorem dialogsIn_cons (i : Invocation (Handler T)) (is : List (Invocation (Handler T))) :
    dialogsIn (i :: is) = dialogsIn [i] + dialogsIn is :=
  dialogsIn_append [i] is

/-- The requests of two lists belong to the actions of each of them. -/
@[simp] theorem openers_append (xs ys : List (DialogRequest (Handler T))) :
    openers (xs ++ ys) = openers xs + openers ys := by
  simp [openers]

/-- What is at a place of a list, and the rest. -/
theorem perm_cons_eraseIdx {α : Type} {xs : List α} {place : Nat} {x : α}
    (hx : xs[place]? = some x) : List.Perm xs (x :: xs.eraseIdx place) := by
  obtain ⟨hlt, rfl⟩ := List.getElem?_eq_some_iff.1 hx
  exact (List.getElem_cons_eraseIdx_perm hlt).symm

/-- What stands at a place counts besides the others. -/
theorem dialogsIn_eraseIdx {is : List (Invocation (Handler T))} {place : Nat}
    {i : Invocation (Handler T)} (hi : is[place]? = some i) :
    dialogsIn is = dialogsIn [i] + dialogsIn (is.eraseIdx place) :=
  calc dialogsIn is = dialogsIn (i :: is.eraseIdx place) :=
        Multiset.coe_eq_coe.2 (((perm_cons_eraseIdx hi).filter _).map _)
    _ = dialogsIn [i] + dialogsIn (is.eraseIdx place) := dialogsIn_cons i _

/-- A request at a place counts besides the others. -/
theorem openers_eraseIdx {requests : List (DialogRequest (Handler T))} {place : Nat}
    {request : DialogRequest (Handler T)} (hr : requests[place]? = some request) :
    openers requests = openers [request] + openers (requests.eraseIdx place) :=
  calc openers requests = openers (request :: requests.eraseIdx place) :=
        Multiset.coe_eq_coe.2 ((perm_cons_eraseIdx hr).map _)
    _ = openers [request] + openers (requests.eraseIdx place) := openers_append [request] _

/-- An invocation counts if it opens a dialog. -/
theorem dialogsIn_singleton (i : Invocation (Handler T)) :
    dialogsIn [i] = if i.flags.dialog then {i.action} else 0 := by
  cases hd : i.flags.dialog <;> simp [dialogsIn, hd]

/-- A handler that opens a dialog passes what it stands for on to its request. -/
theorem openers_request? {i : Invocation (Handler T)} {m : Mapping Command} (hm : i.Performs m) :
    openers (m.handler.request? i).toList = dialogsIn [i] := by
  have hflag : m.handler.dialog?.isSome = i.flags.dialog :=
    (Domain.isSome_dialog? m hm.mem).trans (congrArg _ hm.flags.symm)
  cases hd : m.handler.dialog? with
  | none =>
    rw [hd] at hflag
    simp [openers, dialogsIn, Command.request?, hd, ← hflag]
  | some dialog =>
    rw [hd] at hflag
    simp [openers, dialogsIn, Command.request?, hd, ← hflag]

/-! ## The slot -/

section

variable {r : Registry (Handler T) Dispatcher} {i : Invocation (Handler T)}

/-- A request that is accepted takes the slot, which was free, if it opens a dialog. -/
theorem dialogOwner_trigger {a : Action} {now : Nat} {route : Option Dispatcher}
    (hv : (r.judge a now).1 = .accepted i route) :
    ((r.perform (.trigger a now)).dialogOwner.toList : Multiset Action) =
      dialogsIn [i] + r.dialogOwner.toList := by
  have hj : r.judge a now = (.accepted i route, (r.judge a now).2) := by rw [← hv]
  obtain ⟨e, he, hrefusal, rfl, -, hbegin⟩ := Registry.judge_accepted_iff.1 hj
  obtain ⟨-, hfree, -⟩ := (r.refusal?_eq_none_iff e).1 hrefusal
  have howner : (r.perform (.trigger a now)).dialogOwner =
      if e.flags.dialog then some e.action else r.dialogOwner := by
    rw [Registry.perform_trigger_of_accepted now he hrefusal]
    rfl
  rw [howner, dialogsIn_singleton]
  show _ = (if e.flags.dialog = true then ({e.action} : Multiset Action) else 0) + _
  cases hd : e.flags.dialog with
  | true => simp [hfree hd]
  | false => simp

/-- What a handler of the frontend's own does leaves the slot. -/
theorem dialogOwner_run (hf : r.Furnished machine) {onUi : Bool} (hi : Issued machine onUi i)
    {m : Mapping Command} (hm : i.Performs m) :
    (if m.handler.finishes then r.perform (.finishInvocation i) else r).dialogOwner =
      r.dialogOwner := by
  cases hfinishes : m.handler.finishes with
  | false => rfl
  | true =>
    have hplain : i.flags.dialog = false := by
      rw [hm.flags, ← Domain.isSome_dialog? m hm.mem]
      cases hc : m.handler with
      | resetDrive unit => rfl
      | reset kind => rfl
      | _ => simp [hc, Command.finishes] at hfinishes
    -- The slot is held by an action whose mapping opens a dialog.
    have hother : r.dialogOwner ≠ some i.action := by
      intro ho
      obtain ⟨f, hflags, hd⟩ := hf.coherent.dialog_of_owner ho
      rw [hf.flags?_eq hi hflags, hplain] at hd
      exact Bool.false_ne_true hd
    show (r.release i.action (some i.epoch)).2.dialogOwner = _
    rw [hf.coherent.dialogOwner_release, if_neg fun h => hother h.1]

/-- The slot is given back when the invocation that holds it is finished. -/
theorem dialogOwner_finish (hf : r.Furnished machine) {onUi : Bool} (hi : Issued machine onUi i)
    (ho : r.dialogOwner = some i.action) :
    (r.perform (.finishInvocation i)).dialogOwner = none := by
  show (r.release i.action (some i.epoch)).2.dialogOwner = _
  have hepoch : (some i.epoch).all (· == r.epoch) = true := by
    rw [hi.epoch, hf.epoch]
    rfl
  rw [hf.coherent.dialogOwner_release, if_pos ⟨ho, hepoch⟩]

end

/-! ## The account -/

/-- What is on its way to a dialog or is one belongs to the action that holds the slot. -/
def OneDialog (w : Workplace T) : Prop :=
  ∃ r, w.frontend.registry = some r ∧ w.modal = r.dialogOwner.toList

/-- A turn leaves one dialog at most, and the slot with its action. -/
theorem OneDialog.of_turn (h : w.InOrder machine) (hone : w.OneDialog) {x : Option Happening}
    {w' : Workplace T} (ht : w.Turn x w') : w'.OneDialog := by
  obtain ⟨r, hr, hmodal⟩ := hone
  obtain ⟨r', hr', hf⟩ := h.registry
  obtain rfl := Option.some.inj (hr.symm.trans hr')
  -- Each case says what goes where; that the sums agree is left to `abel`.
  cases ht with
  | aside f hsetup hregistry hcontrol hhost hqueues hdialogs =>
    refine ⟨r, hregistry.trans hr, ?_⟩
    simpa only [modal, Frontend.waiting, hqueues, hdialogs] using hmodal
  | called hr₁ hv notices =>
    obtain rfl := Option.some.inj (hr.symm.trans hr₁)
    refine ⟨_, rfl, ?_⟩
    rw [dialogOwner_trigger hv, ← hmodal]
    simp only [modal, dialogsIn_append]
    show _ + dialogsIn (w.frontend.waiting 0) + _ + _ + _ + _ = _
    abel
  | carried hr₁ hv notices =>
    obtain rfl := Option.some.inj (hr.symm.trans hr₁)
    refine ⟨_, rfl, ?_⟩
    rw [dialogOwner_trigger hv, ← hmodal]
    simp only [modal, List.map_append, dialogsIn_append, List.map_singleton]
    show _ + dialogsIn (w.frontend.waiting 0) + _ + _ + _ + _ = _
    abel
  | @handedOver place d i q hi hq =>
    have hplace : (w.carried.map (·.2))[place]? = some i := by
      rw [List.getElem?_map, hi]
      rfl
    refine ⟨r, hr, ?_⟩
    rw [← hmodal]
    show dialogsIn ((w.carried.eraseIdx place).map (·.2)) + dialogsIn (q.waiting ++ [i]) + _ + _ + _
      + _ = _
    rw [← List.eraseIdx_map]
    simp only [modal, dialogsIn_eraseIdx hplace, waiting_of_queues hq, dialogsIn_append]
    abel
  | ran hi hr₁ hm events notices =>
    obtain rfl := Option.some.inj (hr.symm.trans hr₁)
    refine ⟨_, rfl, ?_⟩
    rw [dialogOwner_run hf (h.called _ (List.mem_of_getElem? hi)) hm, ← hmodal]
    simp only [modal, openers_append, openers_request? hm, dialogsIn_eraseIdx hi]
    show _ + dialogsIn (w.frontend.waiting 0) + _ + _ + _ + _ = _
    abel
  | @taken i rest q hq hw notices =>
    refine ⟨r, hr, ?_⟩
    rw [← hmodal]
    show _ + dialogsIn rest + dialogsIn (w.taken ++ [i]) + _ + _ + _ = _
    rw [modal, waiting_of_queues hq, hw, dialogsIn_cons, dialogsIn_append]
    abel
  | executed hi hr₁ hm events notices =>
    obtain rfl := Option.some.inj (hr.symm.trans hr₁)
    refine ⟨_, rfl, ?_⟩
    rw [dialogOwner_run hf (h.taken _ (List.mem_of_getElem? hi)) hm, ← hmodal]
    simp only [modal, openers_append, openers_request? hm, dialogsIn_eraseIdx hi]
    show _ + dialogsIn (w.frontend.waiting 0) + _ + _ + _ + _ = _
    abel
  | left hrequest events notices =>
    refine ⟨r, hr, ?_⟩
    rw [← hmodal]
    simp only [modal, openers_append, openers_eraseIdx hrequest]
    show _ + dialogsIn (w.frontend.waiting 0) + _ + _ + _ + _ = _
    abel
  | @finished place request r₁ hrequest hr₁ notices =>
    obtain rfl := Option.some.inj (hr.symm.trans hr₁)
    have hissued := (h.closing _ (List.mem_of_getElem? hrequest)).issued
    generalize hothers : dialogsIn (w.carried.map (·.2)) + dialogsIn (w.frontend.waiting 0) +
      dialogsIn w.taken + dialogsIn w.called + openers w.frontend.dialogs +
        openers (w.closing.eraseIdx place) = others
    have hall : others + {request.invocation.action} = (r.dialogOwner.toList : Multiset Action) := by
      rw [← hmodal, ← hothers, modal, openers_eraseIdx hrequest]
      show _ + openers [request] = _
      abel
    -- There is nothing but this request, and its action holds the slot.
    have hmem : request.invocation.action ∈ (r.dialogOwner.toList : Multiset Action) := by
      rw [← hall]
      exact Multiset.mem_add.2 (.inr (Multiset.mem_singleton_self _))
    have howner : r.dialogOwner = some request.invocation.action :=
      Option.mem_toList.1 (Multiset.mem_coe.1 hmem)
    have hnone : others = 0 := by
      rw [howner] at hall
      exact add_eq_right.1 hall
    refine ⟨_, rfl, ?_⟩
    rw [dialogOwner_finish hf hissued howner]
    exact hothers.trans hnone

/-- So does a run. -/
theorem OneDialog.run (h : w.InOrder machine) (hone : w.OneDialog) (moves : List Move) :
    (w.run moves).OneDialog := by
  induction moves generalizing w with
  | nil => exact hone
  | cons x moves ih => exact ih (h.perform x) (hone.of_turn h (h.turn x))

/-! ## One dialog -/

/-- The invocations that were accepted and whose handlers have not been run yet. -/
def pending (w : Workplace T) : List (Invocation (Handler T)) :=
  w.carried.map (·.2) ++ w.frontend.waiting 0 ++ w.taken ++ w.called

/-- The requests for dialogs that have not been completely closed. -/
def requests (w : Workplace T) : List (DialogRequest (Handler T)) :=
  w.frontend.dialogs ++ w.closing

/-- The account is of the invocations that are to be run and of the requests that are open. -/
theorem modal_eq (w : Workplace T) : w.modal = dialogsIn w.pending + openers w.requests := by
  simp only [modal, pending, requests, dialogsIn_append, openers_append]
  abel

/-- The account as a number. -/
theorem card_modal (w : Workplace T) :
    w.modal.card = w.pending.countP (·.flags.dialog) + w.requests.length := by
  rw [modal_eq, Multiset.card_add]
  simp only [dialogsIn, openers, Multiset.coe_card, List.length_map, List.countP_eq_length_filter]

/-- An invocation for a dialog that is to be run is in the account. -/
theorem action_mem_modal_of_pending {i : Invocation (Handler T)} (hi : i ∈ w.pending)
    (hd : i.flags.dialog = true) : i.action ∈ w.modal := by
  rw [modal_eq]
  exact Multiset.mem_add.2 (.inl (List.mem_map_of_mem (List.mem_filter.2 ⟨hi, hd⟩)))

/-- A request that is open is in the account. -/
theorem action_mem_modal_of_request {request : DialogRequest (Handler T)}
    (hr : request ∈ w.requests) : request.invocation.action ∈ w.modal := by
  rw [modal_eq]
  exact Multiset.mem_add.2 (.inr (List.mem_map_of_mem (f := (·.invocation.action)) hr))

/-- In a new frontend nothing is open and the slot is free. -/
theorem oneDialog_furnished (capacity : Nat) (machine : Machine) (setup : Setup) :
    ({ frontend := furnished capacity machine setup } : Workplace T).OneDialog := by
  obtain ⟨notices, heq⟩ := furnished_eq (T := T) capacity machine setup
  rw [heq]
  obtain ⟨-, -, howner, -⟩ := run_register_frame machine
    ((Registry.new 0 capacity).perform (.setDispatcher (.queue 0)) :
      Registry (Handler T) Dispatcher) Domain.all
  refine ⟨_, rfl, ?_⟩
  show (0 : Multiset Action) = _
  rw [show ((Registry.new 0 capacity).run (furnishing machine)).dialogOwner = none from howner]
  rfl

/-- At every moment of every run of a frontend that was furnished for a machine, of which every
session is one, there is one dialog invocation to be run or one dialog request to be closed if the
dialog slot is taken, and none if it is free; and it belongs to the action that holds the slot, as
does the dialog that is requested. -/
theorem one_dialog_at_a_time (capacity : Nat) (machine : Machine) (setup : Setup) :
    let start : Workplace T := { frontend := furnished capacity machine setup }
    (∀ moves, ∃ r, (start.run moves).frontend.registry = some r ∧
      (start.run moves).pending.countP (·.flags.dialog) + (start.run moves).requests.length =
        (if r.dialogOwner.isSome then 1 else 0) ∧
      (∀ i ∈ (start.run moves).pending, i.flags.dialog = true → r.dialogOwner = some i.action) ∧
      ∀ request ∈ (start.run moves).requests,
        r.dialogOwner = some request.invocation.action ∧
          request.invocation.action.dialogKind? = some request.kind) ∧
    ∀ acts, (∀ x ∈ acts, x.isEveryday = true) →
      ∃ moves, start.run moves = { frontend := (furnished capacity machine setup).play acts } := by
  intro start
  refine ⟨fun moves => ?_, fun acts hacts => ?_⟩
  · have horder := (inOrder_furnished (T := T) capacity machine setup).run moves
    have hone := (oneDialog_furnished (T := T) capacity machine setup).run
      (inOrder_furnished capacity machine setup) moves
    obtain ⟨r, hr, hmodal⟩ := hone
    have howner {a : Action} (ha : a ∈ (start.run moves).modal) : r.dialogOwner = some a := by
      rw [hmodal] at ha
      exact Option.mem_toList.1 (Multiset.mem_coe.1 ha)
    refine ⟨r, hr, ?_, fun i hi hd => ?_, fun request hrequest => ⟨?_, ?_⟩⟩
    · rw [← card_modal, hmodal, Multiset.coe_card]
      cases r.dialogOwner <;> rfl
    · exact howner (action_mem_modal_of_pending hi hd)
    · exact howner (action_mem_modal_of_request hrequest)
    · have hasked := List.forall_mem_append.2 ⟨horder.dialogs, horder.closing⟩
      exact (hasked request hrequest).dialogKind?_action
  · obtain ⟨moves, hrun, -⟩ := session_is_workplace capacity machine setup hacts
    exact ⟨moves, hrun⟩

end Workplace

end Switchboard
