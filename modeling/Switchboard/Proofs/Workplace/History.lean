import Mathlib.Algebra.Group.Nat.Even
import Mathlib.Algebra.Ring.Parity
import Mathlib.Tactic.FinCases
import Switchboard.Proofs.Workplace.Session

/-!
# The emulator tells its history

Handlers change the emulator at three moments: where an action is requested, when the UI thread runs
an invocation, and when the user leaves a dialog. What happens at such a moment is a `Happening`, and
what it does to the emulator, `Control.happen`, depends on nothing else but the levels of the notices
that are shown. So the emulator's state is that which the history of a run leads to
(`InOrder.control_run`), and in `control_of_history` every part of it is read off the history of a
session: some parts count, others show what came last.

Warp and pause are turned only if notices for the user are shown, though the requests for it are
carried out all the same (`unshown_warp_is_not_turned`).
-/

namespace Switchboard

/-- What happens changes the emulator, given the levels of the notices that are shown. -/
def Control.happen (logged : Level → Bool) (c : Control) : Happening → Control
  | .ran .warpModeToggle => if logged .info then c.toggleWarp else c
  | .ran .pauseToggle => if logged .info then c.togglePause else c
  | .ran .advanceFrame => if c.paused then c.advanceFrame else c.setPaused true
  | .ran .resetSoft => c.reset .soft
  | .ran .resetHard => c.reset .hard
  | .ran .driveReset8 => c.resetDrive 8
  | .ran .driveReset9 => c.resetDrive 9
  | .ran .driveReset10 => c.resetDrive 10
  | .ran .driveReset11 => c.resetDrive 11
  | .executed .driveDetachAll => c.detachAll
  | .executed .hotkeysClear => c.setHotkeys .empty
  | .executed .hotkeysDefault => c.setHotkeys .default
  | .closed (.attachDisk unit) (.accepted (some image)) => c.attachDisk unit image
  | .closed .smartAttach (.accepted (some image)) => c.attachDisk 8 image
  | .closed .loadHotkeys (.accepted (some path)) => c.setHotkeys (.file path)
  | .closed .saveHotkeys (.accepted (some path)) => c.noteHotkeysSaved path
  | .closed .confirmQuit (.accepted _) => c.requestQuit
  | _ => c

namespace Domain

/-- What a command does where its action is requested. -/
theorem effect_of_ran : ∀ m ∈ allMappings, m.flags.needsUiThread = false →
    ∀ logged c, m.handler.effect logged c = c.happen logged (.ran m.action) := by
  intro m hm hui logged c
  fin_cases hm <;> first | rfl | exact absurd hui (by decide)

/-- What a command does when the UI thread runs it. -/
theorem effect_of_executed : ∀ m ∈ allMappings, m.flags.needsUiThread = true →
    ∀ logged c, m.handler.effect logged c = c.happen logged (.executed m.action) := by
  intro m hm hui logged c
  fin_cases hm <;> first | rfl | exact absurd hui (by decide)

/-- What leaving a dialog does that a command has opened. -/
theorem effect_of_closed : ∀ m ∈ allMappings, ∀ kind onAccept,
    m.handler = .openDialog kind onAccept →
      ∀ logged outcome c, onAccept.effect outcome c = c.happen logged (.closed kind outcome) := by
  intro m hm kind onAccept hc logged outcome c
  fin_cases hm <;> cases hc <;> rcases outcome with _ | _ | path <;> rfl

end Domain

namespace Happening

/-- The disk image that was chosen, and the drive for which it was. -/
def image? : Happening → Option (UInt8 × String)
  | .closed (.attachDisk unit) (.accepted (some image)) => some (unit, image)
  | .closed .smartAttach (.accepted (some image)) => some (8, image)
  | _ => none

/-- The disk image that was chosen for a drive. -/
def imageFor? (unit : UInt8) (x : Happening) : Option String :=
  x.image?.bind fun (unit', image) => if unit' = unit then some image else none

/-- The source from which the hotkeys were taken. -/
def hotkeySource? : Happening → Option HotkeySource
  | .closed .loadHotkeys (.accepted (some path)) => some (.file path)
  | .executed .hotkeysClear => some .empty
  | .executed .hotkeysDefault => some .default
  | _ => none

/-- The file to which the hotkeys were saved. -/
def savedFile? : Happening → Option String
  | .closed .saveHotkeys (.accepted (some path)) => some path
  | _ => none

/-- Whether the machine stands still, and how many frames were advanced, given whether pause is
turned where that is requested. -/
def pausing (turned : Bool) : Happening → Bool × Nat → Bool × Nat
  | .ran .pauseToggle, (paused, frames) => (if turned then !paused else paused, frames)
  | .ran .advanceFrame, (paused, frames) => (true, if paused then frames + 1 else frames)
  | _, state => state

/-- Whether the user has confirmed to leave. -/
def confirmsQuit : Happening → Bool
  | .closed .confirmQuit (.accepted _) => true
  | _ => false

/-- The drive that was reset. -/
def driveReset? : Happening → Option UInt8
  | .ran .driveReset8 => some 8
  | .ran .driveReset9 => some 9
  | .ran .driveReset10 => some 10
  | .ran .driveReset11 => some 11
  | _ => none

/-- The drives, and the actions that reset them. -/
def driveResets : List (UInt8 × Action) :=
  [(8, .driveReset8), (9, .driveReset9), (10, .driveReset10), (11, .driveReset11)]

/-- Each of the four drives has its own action that resets it. -/
theorem driveReset?_eq_some_iff {unit : UInt8} {a : Action} (h : (unit, a) ∈ driveResets)
    (x : Happening) : x.driveReset? = some unit ↔ x = .ran a := by
  obtain ⟨rfl, rfl⟩ | ⟨rfl, rfl⟩ | ⟨rfl, rfl⟩ | ⟨rfl, rfl⟩ := by simpa [driveResets] using h
  all_goals fun_cases driveReset? x <;> simp_all

end Happening

namespace Control

/-! ## Drives -/

/-- The drives have the units from eight on. -/
theorem toNat_of_driveIndex? {unit : UInt8} {i : Fin driveCount} (hi : driveIndex? unit = some i) :
    unit.toNat = 8 + i.val := by
  unfold driveIndex? at hi
  have hfirst : firstDriveUnit.toNat = 8 := rfl
  split at hi
  next h =>
    have hval : unit.toNat - firstDriveUnit.toNat = i.val := congrArg Fin.val (Option.some.inj hi)
    omega
  next => contradiction

/-- The units eight to eleven have a drive. -/
theorem exists_driveIndex? : ∀ unit ∈ [8, 9, 10, 11], ∃ i, driveIndex? unit = some i := by
  simp only [List.forall_mem_cons]
  exact ⟨⟨_, rfl⟩, ⟨_, rfl⟩, ⟨_, rfl⟩, ⟨_, rfl⟩, List.forall_mem_nil _⟩

/-- No two units have one drive. -/
theorem driveIndex?_inj {unit unit' : UInt8} {i : Fin driveCount} (hi : driveIndex? unit = some i)
    (hi' : driveIndex? unit' = some i) : unit = unit' :=
  UInt8.toNat_inj.1 ((toNat_of_driveIndex? hi).trans (toNat_of_driveIndex? hi').symm)

/-- What is kept for the drives after it was changed for one of them. -/
theorem get_setDrive {α : Type} (kept : Vector α driveCount) {unit : UInt8} {i : Fin driveCount}
    (hi : driveIndex? unit = some i) (unit' : UInt8) (new : Fin driveCount → α) :
    ((driveIndex? unit').elim kept fun j => kept.set j (new j) j.isLt).get i =
      if unit' = unit then new i else kept.get i := by
  obtain hj | ⟨j, hj⟩ := Option.eq_none_or_eq_some (driveIndex? unit')
  · have hne : unit' ≠ unit := by
      rintro rfl
      simp [hi] at hj
    simp only [hj, if_neg hne, Option.elim_none]
  · simp only [hj, Option.elim_some]
    by_cases heq : unit' = unit
    · obtain rfl : i = j := Option.some.inj (hi.symm.trans (heq ▸ hj))
      rw [if_pos heq]
      exact Vector.getElem_set_self ..
    · have hne : j.val ≠ i.val := by
        intro hval
        have hsame := driveIndex?_inj hj ((Fin.ext hval : j = i) ▸ hi)
        exact heq hsame
      rw [if_neg heq]
      exact Vector.getElem_set_ne _ _ hne

/-- A disk image that is put into a drive changes the drives only. -/
theorem attachDisk_eq (c : Control) (unit : UInt8) (image : String) :
    c.attachDisk unit image = { c with
      drives := (driveIndex? unit).elim c.drives fun i => c.drives.set i (some image) i.isLt } := by
  unfold attachDisk
  cases driveIndex? unit <;> rfl

/-- The reset of a drive changes the counts of the drives only. -/
theorem resetDrive_eq (c : Control) (unit : UInt8) :
    c.resetDrive unit = { c with
      driveResets := (driveIndex? unit).elim c.driveResets fun i =>
        c.driveResets.set i (c.driveResets.get i + 1) i.isLt } := by
  unfold resetDrive
  cases driveIndex? unit <;> rfl

/-- A disk image stays in the drive into which it was put, and in no other. -/
theorem attached_attachDisk (c : Control) {unit : UInt8} {i : Fin driveCount}
    (hi : driveIndex? unit = some i) (unit' : UInt8) (image : String) :
    (c.attachDisk unit' image).attached unit =
      if unit' = unit then some image else c.attached unit := by
  simp only [attached, attachDisk_eq, hi, Option.bind_some]
  exact get_setDrive c.drives hi unit' fun _ => some image

/-- The reset of a drive counts for that drive, and for no other. -/
theorem driveResetCount_resetDrive (c : Control) {unit : UInt8} {i : Fin driveCount}
    (hi : driveIndex? unit = some i) (unit' : UInt8) :
    (c.resetDrive unit').driveResetCount unit =
      c.driveResetCount unit + if unit' = unit then 1 else 0 := by
  simp only [driveResetCount, resetDrive_eq, hi]
  refine (get_setDrive c.driveResets hi unit' fun i => c.driveResets.get i + 1).trans ?_
  split_ifs <;> rfl

/-! ## The parts -/

variable {logged : Level → Bool}

/-- What becomes of each part. -/
theorem happen_eq (c : Control) (x : Happening) :
    c.happen logged x =
      { warp := if logged .info = true ∧ x = .ran .warpModeToggle then !c.warp else c.warp
        paused := (x.pausing (logged .info) (c.paused, c.framesAdvanced)).1
        framesAdvanced := (x.pausing (logged .info) (c.paused, c.framesAdvanced)).2
        quitRequested := c.quitRequested || x.confirmsQuit
        softResets := c.softResets + if x = .ran .resetSoft then 1 else 0
        hardResets := c.hardResets + if x = .ran .resetHard then 1 else 0
        driveResets := (x.driveReset?.elim c fun unit => c.resetDrive unit).driveResets
        drives := if x = .executed .driveDetachAll then c.detachAll.drives
          else (x.image?.elim c fun (unit, image) => c.attachDisk unit image).drives
        hotkeys := x.hotkeySource?.getD c.hotkeys
        hotkeysSavedTo := x.savedFile?.or c.hotkeysSavedTo } := by
  -- One case for each line of `happen`, and each part is looked up in it.
  fun_cases happen logged c x <;>
    simp_all [Happening.pausing, Happening.confirmsQuit, Happening.driveReset?, Happening.image?,
      Happening.hotkeySource?, Happening.savedFile?, toggleWarp, togglePause, advanceFrame, setPaused,
      reset, resetDrive_eq, attachDisk_eq, detachAll, setHotkeys, noteHotkeysSaved, requestQuit]

/-- A reset of a drive counts for that drive. -/
theorem driveResetCount_happen {unit : UInt8} {i : Fin driveCount} (hi : driveIndex? unit = some i)
    (c : Control) (x : Happening) :
    (c.happen logged x).driveResetCount unit =
      c.driveResetCount unit + if x.driveReset? = some unit then 1 else 0 := by
  have hsame : (c.happen logged x).driveResetCount unit =
      (x.driveReset?.elim c fun unit => c.resetDrive unit).driveResetCount unit := by
    rw [happen_eq]
    rfl
  rw [hsame]
  cases x.driveReset? with
  | none => rfl
  | some unit' =>
    rw [Option.elim_some, driveResetCount_resetDrive c hi]
    simp only [Option.some.injEq]

/-- A disk image stays in its drive until another is put in or all are taken out. -/
theorem attached_happen {unit : UInt8} {i : Fin driveCount} (hi : driveIndex? unit = some i)
    (c : Control) (x : Happening) :
    (c.happen logged x).attached unit =
      if x = .executed .driveDetachAll then none else (x.imageFor? unit).or (c.attached unit) := by
  by_cases hx : x = .executed .driveDetachAll
  · rw [hx, if_pos rfl]
    show (driveIndex? unit).bind (fun i => (Vector.replicate driveCount none)[i]) = none
    simp
  · have hsame : (c.happen logged x).attached unit =
        (x.image?.elim c fun (unit, image) => c.attachDisk unit image).attached unit := by
      rw [happen_eq, if_neg hx]
      rfl
    rw [hsame, if_neg hx, Happening.imageFor?]
    cases x.image? with
    | none => rfl
    | some p =>
      obtain ⟨unit', image⟩ := p
      rw [Option.elim_some, Option.bind_some, attached_attachDisk c hi]
      dsimp only
      split_ifs <;> rfl

/-! ## Histories -/

/-- The emulator after a history. -/
def after (logged : Level → Bool) (hs : List Happening) : Control := hs.foldl (happen logged) {}

/-- What happens last changes the emulator last. -/
theorem after_concat (hs : List Happening) (x : Happening) :
    after logged (hs ++ [x]) = (after logged hs).happen logged x := by
  rw [after, List.foldl_append]
  rfl

/-- What grows by one with some happenings is their number. -/
theorem after_count (part : Control → Nat) (p : Happening → Bool)
    (hpart : ∀ c x, part (c.happen logged x) = part c + if p x = true then 1 else 0)
    (hs : List Happening) : part (after logged hs) = part {} + hs.countP p := by
  induction hs using List.reverseRecOn with
  | nil => rfl
  | append_singleton hs x ih =>
    rw [after_concat, hpart, ih, List.countP_append, List.countP_singleton, Nat.add_assoc]

/-- What some happenings replace is what the last of them put there. -/
theorem after_last {α : Type} (part : Control → Option α) (new : Happening → Option α)
    (hpart : ∀ c x, part (c.happen logged x) = (new x).or (part c)) (hs : List Happening) :
    part (after logged hs) = (hs.reverse.findSome? new).or (part {}) := by
  induction hs using List.reverseRecOn with
  | nil => rfl
  | append_singleton hs x ih =>
    rw [after_concat, hpart, ih, List.reverse_concat, List.findSome?_cons]
    cases new x <;> rfl

variable (hs : List Happening)

/-- Warp is on if it was turned an odd number of times, and at all. -/
theorem warp_after : (after logged hs).warp = true ↔
    logged .info = true ∧ Odd (hs.count (.ran .warpModeToggle)) := by
  induction hs using List.reverseRecOn with
  | nil => simp [after]
  | append_singleton hs x ih =>
    rw [after_concat, happen_eq, List.count_append, List.count_singleton]
    cases hshown : logged .info with
    | false => simpa [hshown] using ih
    | true =>
      simp only [hshown, true_and] at ih
      by_cases hx : x = .ran .warpModeToggle
      · simp [hx, Nat.odd_add_one, ← ih]
      · simp [hx, ih]

/-- The soft resets are those that ran. -/
theorem softResets_after : (after logged hs).softResets = hs.count (.ran .resetSoft) := by
  have hcount := @after_count logged (·.softResets) (· == .ran .resetSoft) (fun c x => by
    rw [happen_eq]
    simp only [beq_iff_eq]) hs
  exact hcount.trans (Nat.zero_add _)

/-- The hard resets are those that ran. -/
theorem hardResets_after : (after logged hs).hardResets = hs.count (.ran .resetHard) := by
  have hcount := @after_count logged (·.hardResets) (· == .ran .resetHard) (fun c x => by
    rw [happen_eq]
    simp only [beq_iff_eq]) hs
  exact hcount.trans (Nat.zero_add _)

/-- The resets of a drive are the runs of its action. -/
theorem driveResetCount_after {unit : UInt8} {a : Action}
    (h : (unit, a) ∈ Happening.driveResets) :
    (after logged hs).driveResetCount unit = hs.count (.ran a) := by
  obtain ⟨i, hi⟩ := exists_driveIndex? unit (List.mem_map_of_mem (f := Prod.fst) h)
  have hcount := @after_count logged (·.driveResetCount unit) (· == .ran a) (fun c x => by
    rw [driveResetCount_happen hi]
    simp only [beq_iff_eq, Happening.driveReset?_eq_some_iff h]) hs
  have hnone : ({} : Control).driveResetCount unit = 0 := by
    simp [driveResetCount, show driveIndex? unit = some i from hi]
  rw [hcount, hnone, Nat.zero_add]
  rfl

/-- The pause and the frames are what the runs have made of them one after the other. -/
theorem pausing_after :
    ((after logged hs).paused, (after logged hs).framesAdvanced) =
      hs.foldl (fun state x => x.pausing (logged .info) state) (false, 0) := by
  induction hs using List.reverseRecOn with
  | nil => rfl
  | append_singleton hs x ih =>
    rw [after_concat, happen_eq, List.foldl_append, ← ih]
    rfl

/-- In a drive is the last image that was chosen for it since all drives were emptied. -/
theorem attached_after {unit : UInt8} {i : Fin driveCount} (hi : driveIndex? unit = some i) :
    (after logged hs).attached unit =
      (hs.reverse.takeWhile (· ≠ .executed .driveDetachAll)).findSome? (·.imageFor? unit) := by
  induction hs using List.reverseRecOn with
  | nil => simp [after, attached, hi]
  | append_singleton hs x ih =>
    -- Read backwards, the history ends for a drive where all were emptied.
    rw [after_concat, attached_happen hi, ih, List.reverse_concat, List.takeWhile_cons]
    by_cases hx : x = .executed .driveDetachAll
    · simp [hx]
    · simp only [hx, if_false, ne_eq, not_false_eq_true, decide_true, if_true, List.findSome?_cons]
      cases x.imageFor? unit <;> rfl

/-- The hotkeys are those that were taken last, or the default ones. -/
theorem hotkeys_after :
    (after logged hs).hotkeys = (hs.reverse.findSome? (·.hotkeySource?)).getD .default := by
  -- There always are hotkeys, so the last source is looked for among what may be there.
  have hlast := @after_last logged _ (fun c => some c.hotkeys) (·.hotkeySource?) (fun c x => by
    rw [happen_eq]
    cases x.hotkeySource? <;> rfl) hs
  apply Option.some.inj
  rw [hlast]
  cases hs.reverse.findSome? (·.hotkeySource?) <;> rfl

/-- The hotkeys were saved last to the last file that was chosen for it. -/
theorem hotkeysSavedTo_after :
    (after logged hs).hotkeysSavedTo = hs.reverse.findSome? (·.savedFile?) := by
  have hlast := @after_last logged _ (·.hotkeysSavedTo) (·.savedFile?) (fun c x => by rw [happen_eq]) hs
  exact hlast.trans Option.or_none

/-- The user wants to leave if the dialog for it was accepted once. -/
theorem quitRequested_after :
    (after logged hs).quitRequested = true ↔ ∃ path, .closed .confirmQuit (.accepted path) ∈ hs := by
  induction hs using List.reverseRecOn with
  | nil => simp [after]
  | append_singleton hs x ih =>
    have hconfirms : x.confirmsQuit = true ↔ ∃ path, .closed .confirmQuit (.accepted path) = x := by
      unfold Happening.confirmsQuit
      split
      next path => exact iff_of_true rfl ⟨path, rfl⟩
      next hne => exact iff_of_false Bool.false_ne_true fun ⟨path, heq⟩ => hne path heq.symm
    rw [after_concat, happen_eq, Bool.or_eq_true, ih, hconfirms, ← exists_or]
    simp only [List.mem_append, List.mem_singleton]

end Control

namespace Workplace

variable {T : Type} {machine : Machine} {w : Workplace T}

/-- With every turn the emulator changes as what happens says. -/
theorem InOrder.control_turn (h : w.InOrder machine) {x : Option Happening} {w' : Workplace T}
    (ht : w.Turn x w') :
    w'.frontend.control =
      x.toList.foldl (Control.happen w.frontend.setup.logged) w.frontend.control := by
  cases ht with
  | aside f hsetup hregistry hcontrol hhost hqueues hdialogs => exact hcontrol
  | called hr hv notices => rfl
  | carried hr hv notices => rfl
  | handedOver hi hq => rfl
  | taken hq hw notices => rfl
  | finished hrequest hr notices => rfl
  -- Where a handler runs, its command is that of one of the mappings, and what the command does is
  -- what happens then.
  | @ran place i r m hi hr hm events notices =>
    have hissued := h.called _ (List.mem_of_getElem? hi)
    have hui : m.flags.needsUiThread = false := hm.flags ▸ hissued.needsUiThread
    show m.handler.effect w.frontend.setup.logged w.frontend.control =
      w.frontend.control.happen w.frontend.setup.logged (.ran i.action)
    rw [hm.action, Domain.effect_of_ran m hm.mem hui]
  | @executed place i r m hi hr hm events notices =>
    have hissued := h.taken _ (List.mem_of_getElem? hi)
    have hui : m.flags.needsUiThread = true := hm.flags ▸ hissued.needsUiThread
    show m.handler.effect w.frontend.setup.logged w.frontend.control =
      w.frontend.control.happen w.frontend.setup.logged (.executed i.action)
    rw [hm.action, Domain.effect_of_executed m hm.mem hui]
  -- A dialog was opened by a command, and that command says what its acceptance does.
  | @left place request outcome hrequest events notices =>
    have hasked := h.dialogs _ (List.mem_of_getElem? hrequest)
    obtain ⟨m, hm⟩ := hasked.issued.exists_performs
    have hcommand := Handler.command.inj (hm.handler.symm.trans hasked.handler)
    show request.onAccept.effect outcome w.frontend.control =
      w.frontend.control.happen w.frontend.setup.logged (.closed request.kind outcome)
    exact Domain.effect_of_closed m hm.mem _ _ hcommand _ outcome _

/-- The setup stays as it is. -/
theorem InOrder.setup_turn {x : Option Happening} {w' : Workplace T} (ht : w.Turn x w') :
    w'.frontend.setup = w.frontend.setup := by
  cases ht with
  | aside f hsetup hregistry hcontrol hhost hqueues hdialogs => exact hsetup
  | _ => rfl

/-- The emulator is in the state to which the history of a run leads. -/
theorem InOrder.control_run (h : w.InOrder machine) (moves : List Move) :
    (w.run moves).frontend.control =
      (w.history moves).foldl (Control.happen w.frontend.setup.logged) w.frontend.control := by
  induction moves generalizing w with
  | nil => rfl
  | cons x moves ih =>
    rw [run_cons, ih (h.perform x), setup_turn (h.turn x), h.control_turn (h.turn x), history,
      List.foldl_append]

/-- The emulator is in the state to which the history of a session leads. -/
theorem control_play (capacity : Nat) (machine : Machine) (setup : Setup)
    {acts : List (Frontend.Act T)} (hacts : ∀ x ∈ acts, x.isEveryday = true) :
    ((furnished capacity machine setup).play acts).control =
      Control.after setup.logged ((furnished capacity machine setup).history acts) := by
  obtain ⟨notices, heq⟩ := furnished_eq (T := T) capacity machine setup
  have hsetup : (furnished capacity machine setup : Frontend T).setup = setup := by
    rw [heq]
    rfl
  have hnew : (furnished capacity machine setup : Frontend T).control = {} := by
    rw [heq]
    rfl
  obtain ⟨moves, hrun, hhistory⟩ := session_is_workplace capacity machine setup hacts
  have hcontrol := (inOrder_furnished (T := T) capacity machine setup).control_run moves
  rw [hrun, hhistory] at hcontrol
  -- The frontend is named, since to unfold it would be to go through all mappings.
  generalize furnished capacity machine setup = f at hsetup hnew hcontrol ⊢
  rw [hcontrol, hsetup, hnew]
  rfl

/-- The emulator's state is what the history of a session says: warp and the counts of resets and
frames add up what ran, a drive has the last image that was put in and not taken out since, the
hotkeys are from the last source and went to the last file, and the user wants to leave if that was
confirmed. But warp and pause are turned only if notices for the user are shown. So warp is what the
number of requests for it says exactly if they are shown or the number is even; and that they are
shown is all that it takes for pause. -/
theorem control_of_history (capacity : Nat) (machine : Machine) (setup : Setup)
    (acts : List (Frontend.Act T)) (hacts : ∀ x ∈ acts, x.isEveryday = true) :
    let hs := (furnished capacity machine setup : Frontend T).history acts
    let c := ((furnished capacity machine setup : Frontend T).play acts).control
    ((c.warp = true ↔ setup.logged .info = true ∧ Odd (hs.count (.ran .warpModeToggle))) ∧
      ((c.warp = true ↔ Odd (hs.count (.ran .warpModeToggle))) ↔
        setup.logged .info = true ∨ ¬ Odd (hs.count (.ran .warpModeToggle)))) ∧
    (c.resets .soft = hs.count (.ran .resetSoft) ∧ c.resets .hard = hs.count (.ran .resetHard)) ∧
    (∀ p ∈ Happening.driveResets, c.driveResetCount p.1 = hs.count (.ran p.2)) ∧
    ((c.paused, c.framesAdvanced) =
        hs.foldl (fun state x => x.pausing (setup.logged .info) state) (false, 0) ∧
      (setup.logged .info = true → (c.paused, c.framesAdvanced) =
        hs.foldl (fun state x => x.pausing true state) (false, 0))) ∧
    (∀ unit ∈ [8, 9, 10, 11], c.attached unit =
      (hs.reverse.takeWhile (· ≠ .executed .driveDetachAll)).findSome? (·.imageFor? unit)) ∧
    c.hotkeys = (hs.reverse.findSome? (·.hotkeySource?)).getD .default ∧
    c.hotkeysSavedTo = hs.reverse.findSome? (·.savedFile?) ∧
    (c.quitRequested = true ↔ ∃ path, .closed .confirmQuit (.accepted path) ∈ hs) := by
  intro hs c
  have hc : c = Control.after setup.logged hs := control_play capacity machine setup hacts
  rw [hc]
  have hwarp := @Control.warp_after setup.logged hs
  have hpausing := @Control.pausing_after setup.logged hs
  refine ⟨⟨hwarp, ?_⟩, ⟨Control.softResets_after hs, Control.hardResets_after hs⟩,
    fun _ hp => Control.driveResetCount_after hs hp, ⟨hpausing, fun hshown => ?_⟩,
    fun unit hunit => ?_, Control.hotkeys_after hs, Control.hotkeysSavedTo_after hs,
    Control.quitRequested_after hs⟩
  · rw [hwarp, and_iff_right_iff_imp, imp_iff_not_or, or_comm]
  · rw [hpausing, hshown]
  · obtain ⟨i, hi⟩ := Control.exists_driveIndex? unit hunit
    exact Control.attached_after hs hi

/-- The first frame that is asked for only pauses the machine, and the second is advanced. The image
goes into the drive when its dialog is closed. -/
theorem frame_advanced_and_image_attached :
    let acts : List (Frontend.Act Unit) :=
      [.request false .advanceFrame, .requestByName false "advance-frame", .request true .smartAttach,
        .runPending 0, .closeDialog 0 (.accepted (some "disk.d64"))]
    let c := ((furnished 64 .c64sc {}).play acts).control
    (∀ x ∈ acts, x.isEveryday = true) ∧ (c.paused, c.framesAdvanced) = (true, 1) ∧
      c.attached 8 = some "disk.d64" := by
  intro acts c
  have hacts : ∀ x ∈ acts, x.isEveryday = true := by decide
  have hhistory : (furnished 64 .c64sc {}).history acts =
      [.ran .advanceFrame, .ran .advanceFrame, .executed .smartAttach,
        .closed .smartAttach (.accepted (some "disk.d64"))] := by
    decide +kernel
  obtain ⟨-, -, -, ⟨hpausing, -⟩, hattached, -⟩ := control_of_history 64 .c64sc {} acts hacts
  rw [hhistory] at hpausing hattached
  exact ⟨hacts, hpausing, hattached 8 (by decide)⟩

/-- A setup that shows warnings and errors only. -/
def warningsOnly : Setup := { logged := fun level => level = .error ∨ level = .warn }

/-- Where only warnings are shown, warp is requested once, the request is carried out, and warp is
off. -/
theorem unshown_warp_is_not_turned :
    ¬ ∀ (setup : Setup) (acts : List (Frontend.Act Unit)), (∀ x ∈ acts, x.isEveryday = true) →
      let hs := (furnished 64 .c64sc setup).history acts
      (((furnished 64 .c64sc setup).play acts).control.warp = true ↔
        Odd (hs.count (.ran .warpModeToggle))) := by
  intro h
  have hon := (h warningsOnly [.request false .warpModeToggle] (by decide)).2
  have hhistory : (furnished 64 .c64sc warningsOnly).history
      ([.request false .warpModeToggle] : List (Frontend.Act Unit)) = [.ran .warpModeToggle] := by
    decide +kernel
  rw [hhistory] at hon
  have hoff : ((furnished 64 .c64sc warningsOnly).play
      ([.request false .warpModeToggle] : List (Frontend.Act Unit))).control.warp = false := by
    decide +kernel
  rw [hoff] at hon
  exact absurd (hon (by decide)) Bool.false_ne_true

end Workplace

end Switchboard
