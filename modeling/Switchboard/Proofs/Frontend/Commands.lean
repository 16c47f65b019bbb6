import Switchboard.Proofs.Frontend.Acts
import Switchboard.Proofs.Registry.FirstMapping

/-!
# Handlers of the frontend's own

The handlers that the subsystems contribute are commands. Unlike a script a command requests no
action, so what it does can be said in one equation (`after_perform`): it changes the emulator, opens
a dialog, or finishes its invocation, and the rest is records. The same is said of closing a dialog
(`after_close`, `after_leave`), and of filling a new registry with the mappings of all subsystems
that a machine supports (`after_registerAll`).
-/

namespace Switchboard

/-- What a command does to the emulator, given the levels of the notices that are shown. -/
def Command.effect (logged : Level → Bool) : Command → Control → Control
  | .toggleWarp, c => if logged .info then c.toggleWarp else c
  | .togglePause, c => if logged .info then c.togglePause else c
  | .advanceFrame, c => if c.paused then c.advanceFrame else c.setPaused true
  | .detachAll, c => c.detachAll
  | .resetDrive unit, c => c.resetDrive unit
  | .reset kind, c => c.reset kind
  | .setHotkeys source, c => c.setHotkeys source
  | .openDialog _ _, c => c

/-- Whether a command finishes its invocation. -/
def Command.finishes : Command → Bool
  | .resetDrive _ | .reset _ => true
  | _ => false

/-- The dialog that a command opens, and what accepting it does. -/
def Command.dialog? : Command → Option (DialogKind × OnAccept)
  | .openDialog kind onAccept => some (kind, onAccept)
  | _ => none

/-- The dialog of a command is the one that it opens. -/
theorem Command.dialog?_eq_some_iff {c : Command} {kind : DialogKind} {onAccept : OnAccept} :
    c.dialog? = some (kind, onAccept) ↔ c = .openDialog kind onAccept := by
  cases c <;> simp [dialog?]

/-- The request for a dialog with which a command goes to the host. -/
def Command.request? {H : Type} (i : Invocation H) (c : Command) : Option (DialogRequest H) :=
  c.dialog?.map fun (kind, onAccept) => { kind, invocation := i, onAccept }

/-- What leaving a dialog does to the emulator. -/
def OnAccept.effect : OnAccept → DialogOutcome → Control → Control
  | .attachDisk unit, .accepted (some image), c => c.attachDisk unit image
  | .loadHotkeys, .accepted (some file), c => c.setHotkeys (.file file)
  | .saveHotkeys, .accepted (some file), c => c.noteHotkeysSaved file
  | .quit, .accepted _, c => c.requestQuit
  | _, _, c => c

namespace FrontendM

variable {T : Type} {f : Frontend T} {r : Registry (Handler T) Dispatcher}

/-- Finishing an invocation is a step of the registry that issued it. -/
theorem after_finish {i : Invocation (Handler T)} (hr : f.registry = some r)
    (hid : r.id = i.registry) :
    ∃ notices, (finish i).after f =
      { f with registry := some (r.perform (.finishInvocation i)), notices := notices } :=
  ⟨_, after_finish_of_issued hr hid⟩

/-- A host that keeps dialogs open adds a request to those that are open. -/
theorem after_openDialog (hhost : f.host = .hold) (request : DialogRequest (Handler T)) :
    ∃ events, (openDialog request).after f =
      { f with dialogs := f.dialogs ++ [request], events := events } := by
  refine ⟨f.events.push (.opened request.kind request.invocation.action), ?_⟩
  have hhost' : ((record (.opened request.kind request.invocation.action)).after f).host = .hold :=
    hhost
  simp only [openDialog, after_bind, after_get, result_get, hhost']
  rfl

/-- A change that comes with the wording of a notice is made if such notices are shown. -/
theorem after_changeNoticing (change : Control → Control) (told : Control → Notice) :
    ∃ notices, (changeNoticing change told).after f =
      { f with
        control := if f.setup.logged .info then change f.control else f.control
        notices := notices } := by
  unfold changeNoticing
  rw [after_bind, after_get, result_get]
  cases f.setup.logged .info with
  | false => exact ⟨_, rfl⟩
  | true => exact ⟨_, rfl⟩

/-- A command that finishes its invocation does so when it has changed the emulator. -/
theorem after_perform_of_finishes {i : Invocation (Handler T)} (hr : f.registry = some r)
    (hid : r.id = i.registry) {c : Command} (hc : c.finishes = true) :
    ∃ notices, (perform i c).after f =
      { f with
        registry := some (r.perform (.finishInvocation i))
        control := c.effect f.setup.logged f.control
        notices := notices } := by
  cases c with
  | resetDrive unit =>
    obtain ⟨notices, hafter⟩ := after_finish
      (f := (changeControl (·.resetDrive unit)).after ((notify (.resettingDrive unit)).after f)) hr hid
    exact ⟨notices, hafter⟩
  | reset kind =>
    obtain ⟨notices, hafter⟩ := after_finish
      (f := (changeControl (·.reset kind)).after ((notify (.resetting kind)).after f)) hr hid
    exact ⟨notices, hafter⟩
  | _ => contradiction

/-- What a command does while the host keeps dialogs open. -/
theorem after_perform {i : Invocation (Handler T)} (hr : f.registry = some r)
    (hid : r.id = i.registry) (hhost : f.host = .hold) (c : Command) :
    ∃ events notices, (perform i c).after f =
      { f with
        registry := some (if c.finishes then r.perform (.finishInvocation i) else r)
        control := c.effect f.setup.logged f.control
        dialogs := f.dialogs ++ (c.request? i).toList
        events := events
        notices := notices } := by
  -- Only a command that finishes does something to the registry, and only one opens a dialog.
  have hdialogs : c.dialog? = none → f.dialogs ++ (c.request? i).toList = f.dialogs :=
    fun h => by rw [Command.request?, h]; exact List.append_nil _
  cases hc : c.finishes with
  | true =>
    have hnone : c.dialog? = none := by cases c <;> first | rfl | contradiction
    obtain ⟨notices, hafter⟩ := after_perform_of_finishes hr hid hc
    rw [hdialogs hnone]
    exact ⟨_, notices, hafter⟩
  | false =>
    rw [if_neg Bool.false_ne_true, ← hr]
    cases c with
    | openDialog kind onAccept =>
      obtain ⟨events, hafter⟩ := after_openDialog hhost { kind, invocation := i, onAccept }
      exact ⟨events, f.notices, hafter⟩
    | resetDrive unit => contradiction
    | reset kind => contradiction
    | toggleWarp =>
      obtain ⟨notices, hafter⟩ := after_changeNoticing (f := f) (·.toggleWarp) fun c => .warp c.warp
      rw [hdialogs rfl]
      exact ⟨f.events, notices, hafter⟩
    | togglePause =>
      obtain ⟨notices, hafter⟩ := after_changeNoticing (f := f) (·.togglePause) fun c =>
        .emulation c.paused
      rw [hdialogs rfl]
      exact ⟨f.events, notices, hafter⟩
    | _ =>
      rw [hdialogs rfl]
      exact ⟨_, _, rfl⟩

/-! ## Leaving a dialog -/

/-- What the user does to leave a dialog is carried out; the invocation that asked for it is not
finished yet. -/
def leave (request : DialogRequest (Handler T)) (outcome : DialogOutcome) : FrontendM T Unit := do
  notify (.dialogClosed request.kind outcome)
  if let .accepted path := outcome then accept path request.onAccept

/-- A dialog is left, and then its invocation is finished. -/
theorem after_close (request : DialogRequest (Handler T)) (outcome : DialogOutcome) :
    (close request outcome).after f =
      (finish request.invocation).after ((leave request outcome).after f) := by
  cases outcome <;> rfl

/-- To leave a dialog changes the emulator, and nothing else but records. -/
theorem after_leave (request : DialogRequest (Handler T)) (outcome : DialogOutcome) :
    ∃ events notices, (leave request outcome).after f =
      { f with
        control := request.onAccept.effect outcome f.control
        events := events
        notices := notices } := by
  have hcancel : ∀ onAccept : OnAccept, onAccept.effect .cancelled f.control = f.control := by
    intro onAccept
    cases onAccept <;> rfl
  cases outcome with
  | cancelled =>
    rw [hcancel]
    exact ⟨_, _, rfl⟩
  | accepted path =>
    obtain ⟨kind, invocation, onAccept⟩ := request
    cases onAccept <;> cases path <;> exact ⟨_, _, rfl⟩

/-! ## Filling a registry -/

/-- Offering mappings is a step of the registry, with those that a machine supports if one is
given. -/
theorem after_registerFor (hr : f.registry = some r) (machine : Option Machine)
    (ms : List (Mapping (Handler T))) :
    ∃ notices, (registerFor machine ms).after f =
      { f with
        registry := some (r.perform (.register
          (ms.filter fun m => machine.all fun x => m.action.isSupportedBy x)))
        notices := notices } := by
  obtain ⟨hafter, hresult⟩ :=
    after_useRegistry?_some (·.enrolWhere (fun a => machine.all fun x => a.isSupportedBy x) ms) hr
  rw [Registry.enrolWhere_eq_register] at hafter
  unfold registerFor
  simp only [after_bind, hafter, hresult]
  -- What is told of each mapping is a record; the registry was changed before.
  generalize hloop : (forIn (_ : List (Action × Enrolment)) PUnit.unit _ : FrontendM T PUnit) = loop
  generalize hregistered : r.perform (.register _) = r'
  obtain ⟨notices, hnotices⟩ : ∃ notices, loop.after { f with registry := some r' } =
      { f with registry := some r', notices := notices } := by
    rw [← hloop]
    refine ⟨_, after_forIn_noticing (fun x => (x.2.notice? machine x.1).toList)
      (fun x g => ?_) (fun x g => ?_) _ _⟩
    · cases x.2.notice? machine x.1 <;> rfl
    · cases x.2.notice? machine x.1 with
      | none => exact g.noticing_nil.symm
      | some n => exact after_notify n g
  rw [hnotices]
  exact ⟨_, rfl⟩

/-- Of mappings that are offered for a machine the registry gets those that it supports. -/
theorem after_registerFor_some (hr : f.registry = some r) (machine : Machine)
    (ms : List (Mapping (Handler T))) :
    ∃ notices, (registerFor (some machine) ms).after f =
      { f with
        registry := some (r.perform (.register (ms.filter (·.action.isSupportedBy machine))))
        notices := notices } :=
  after_registerFor hr (some machine) ms

end FrontendM

/-- The mappings of all subsystems that a machine supports. -/
def Domain.commands {T : Type} (machine : Machine) : List (Mapping (Handler T)) :=
  Domain.all.flatMap fun d => (FrontendM.domainMappings d).filter (·.action.isSupportedBy machine)

/-- An invocation of what a subsystem contributes. -/
structure Invocation.Performs {T : Type} (i : Invocation (Handler T)) (m : Mapping Command) :
    Prop where
  /-- A subsystem contributes the mapping. -/
  mem : m ∈ Domain.allMappings
  /-- The invocation is for its action. -/
  action : i.action = m.action
  /-- The invocation runs its command. -/
  handler : i.handler = .command m.handler
  /-- The invocation has its flags. -/
  flags : i.flags = m.flags

/-- What the subsystems contribute for a machine are commands. -/
theorem Domain.exists_performs {T : Type} {machine : Machine} {i : Invocation (Handler T)}
    (h : i.mapping ∈ commands machine) : ∃ m, i.Performs m := by
  obtain ⟨d, hd, hm⟩ := List.mem_flatMap.1 h
  obtain ⟨m, hmem, heq⟩ := List.mem_map.1 (List.mem_filter.1 hm).1
  obtain ⟨haction, hhandler, hflags⟩ := Mapping.mk.inj heq
  exact ⟨m, List.mem_flatMap.2 ⟨d, hd, hmem⟩, haction.symm, hhandler.symm, hflags.symm⟩

/-- The mappings that are flagged as dialogs are those whose command opens one. -/
theorem Domain.isSome_dialog? :
    ∀ m ∈ allMappings, m.handler.dialog?.isSome = m.flags.dialog := by decide

namespace FrontendM

variable {T : Type} {f : Frontend T} {r : Registry (Handler T) Dispatcher}

/-- The handler of an invocation that is a command is that command and no more. -/
theorem runInvocation_command {i : Invocation (Handler T)} {c : Command}
    (hi : i.handler = .command c) (onMain : Bool) : runInvocation onMain i = perform i c := by
  have hnested : ∀ depth, runNested (depth + 1) onMain i = perform i c := by
    intro depth
    unfold runNested
    rw [hi]
  unfold runInvocation
  simp only [hnested]
  rfl

/-- Filling a registry offers it the mappings of one subsystem after the other. -/
theorem after_registerAll (hr : f.registry = some r) (machine : Machine) :
    ∃ notices, (registerAll machine).after f =
      { f with
        registry := some (r.run (Domain.all.map fun d =>
          .register ((domainMappings d).filter (·.action.isSupportedBy machine))))
        notices := notices } := by
  unfold registerAll
  generalize Domain.all = ds, ({} : Report) = report
  rw [after_bind]
  simp only [after_pure]
  -- The registry and the report so far differ from round to round, and so does the frontend.
  induction ds generalizing f r report with
  | nil =>
    have hsame : some (r.run []) = f.registry := hr.symm
    rw [List.map_nil, hsame]
    exact ⟨_, rfl⟩
  | cons d ds ih =>
    obtain ⟨notices, hfirst⟩ := after_registerFor_some hr machine (domainMappings d)
    rw [List.forIn_cons]
    simp only [after_bind, hfirst, result_bind, result_pure, after_pure]
    exact ih rfl _

end FrontendM

end Switchboard
