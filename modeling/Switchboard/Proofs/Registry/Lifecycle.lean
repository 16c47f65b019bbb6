import Mathlib.Data.Finset.Erase
import Mathlib.Data.Finset.Insert
import Switchboard.Proofs.Registry.Stamps

/-!
# Actions that are idle or running

To its clients a registry is a simple machine. Actions have handlers and flags, each is idle or
running, and something leads to the UI thread or not; a request looks at these three and at nothing
else. `Lifecycle` is that machine, and `realizes_lifecycle` says that a registry is an
implementation of it: busy flags, stamps and the dialog slot are how it remembers which actions are
running, in every state that a new registry can get into.

The relation between the two is `Registry.Realizes`. It has an action run exactly if its entry is
stamped, since by `Coherent` the busy flag and the slot follow from the stamp. The machine has no
epochs: the finish of an invocation is a move of it if the invocation is of the present table, and
no move at all if it is of an earlier one (`Step.move?`).
-/

namespace Switchboard

/-- The first mapping of a list for an action. The reserved identifier has none. -/
def Mapping.firstFor? {H : Type} (ms : List (Mapping H)) (a : Action) : Option (Mapping H) :=
  ms.find? fun m => m.action.isReal && m.action == a

/-- What clients have to know of a registry to foresee its answers. -/
structure Lifecycle (H : Type) where
  /-- The handler and the flags of each action that has a mapping. -/
  mapping : Action → Option (H × Flags)
  /-- The actions that are running; the others are idle. -/
  running : Finset Action
  /-- Something leads to the UI thread. -/
  hasDispatcher : Bool

/-- One thing that clients do, as far as it matters for what is running. -/
inductive Lifecycle.Move (H : Type)
  /-- Offer mappings. -/
  | offer (ms : List (Mapping H))
  /-- Make something lead to the UI thread. -/
  | connect
  /-- Request an action. -/
  | request (a : Action)
  /-- Finish an action. -/
  | finish (a : Action)
  /-- Start over. -/
  | clear

namespace Lifecycle

variable {H : Type}

/-- No mappings, nothing running, and no way to the UI thread. -/
def empty : Lifecycle H := ⟨fun _ => none, ∅, false⟩

/-- The flags of an action that has a mapping. -/
def flags? (s : Lifecycle H) (a : Action) : Option Flags := (s.mapping a).map (·.2)

/-- Whether an action has a mapping that opens a dialog. -/
def isDialog (s : Lifecycle H) (a : Action) : Bool := (s.flags? a).any (·.dialog)

/-- Whether an action is blocking and running. -/
def isBusy (s : Lifecycle H) (a : Action) : Bool :=
  (s.flags? a).any (·.blocks) && decide (a ∈ s.running)

/-- The dialog action that is running. -/
def dialogOwner (s : Lifecycle H) : Option Action :=
  Action.all.find? fun a => decide (a ∈ s.running) && s.isDialog a

/-- What the client that requests an action is told. -/
def judge (s : Lifecycle H) (a : Action) : Outcome :=
  match s.mapping a with
  | none => .unknown
  | some (_, f) =>
    if f.blocks = true ∧ a ∈ s.running then .droppedBusy
    else if f.dialog = true ∧ ∃ b ∈ s.running, s.isDialog b = true then .droppedDialog
    else if (f.uithread = true ∨ f.dialog = true) ∧ s.hasDispatcher = false then .noDispatcher
    else if f.uithread = true ∨ f.dialog = true then .dispatched
    else .ran

/-- The machine after a move. The first mapping of a real action stays, a request that is accepted
makes a blocking action or a dialog action run, and to finish an action makes it idle. -/
def perform (s : Lifecycle H) : Move H → Lifecycle H
  | .offer ms =>
    let offered a := (Mapping.firstFor? ms a).map fun m => (m.handler, m.flags)
    { s with mapping := fun a => (s.mapping a).or (offered a) }
  | .connect => { s with hasDispatcher := true }
  | .request a =>
    if (s.judge a).isAccepted = true ∧ (s.flags? a).any (fun f => f.blocks || f.dialog) = true then
      { s with running := insert a s.running }
    else s
  | .finish a => { s with running := s.running.erase a }
  | .clear => empty

/-- The machine after the moves of a list. -/
def run (s : Lifecycle H) (moves : List (Move H)) : Lifecycle H := moves.foldl perform s

/-- What a client is told of a move, if it is a request. -/
def outcome? (s : Lifecycle H) : Move H → Option Outcome
  | .request a => some (s.judge a)
  | _ => none

/-- What clients are told of their requests, in order. -/
def outcomes (s : Lifecycle H) : List (Move H) → List Outcome
  | [] => []
  | m :: moves => (s.outcome? m).toList ++ (s.perform m).outcomes moves

/-- A request changes no mapping and leaves the way to the UI thread. -/
theorem request_frame (s : Lifecycle H) (a : Action) :
    (s.perform (.request a)).mapping = s.mapping ∧
      (s.perform (.request a)).hasDispatcher = s.hasDispatcher := by
  simp only [perform]
  split_ifs <;> exact ⟨rfl, rfl⟩

/-- A life can be cut anywhere. -/
theorem run_append (s : Lifecycle H) (before after : List (Move H)) :
    s.run (before ++ after) = (s.run before).run after :=
  List.foldl_append

/-- The outcomes of a life are those of the one part and then those of the other. -/
theorem outcomes_append (s : Lifecycle H) (before after : List (Move H)) :
    s.outcomes (before ++ after) = s.outcomes before ++ (s.run before).outcomes after := by
  induction before generalizing s with
  | nil => rfl
  | cons m before ih =>
    show (s.outcome? m).toList ++ (s.perform m).outcomes (before ++ after) = _
    rw [ih, ← List.append_assoc]
    rfl

end Lifecycle

namespace Registry

variable {H D : Type}

/-- The move that a step is in the table of an epoch. To finish an invocation of another table is
none. -/
def Step.move? (epoch : Nat) : Step H D → Option (Lifecycle.Move H)
  | .register ms => some (.offer ms)
  | .setDispatcher _ => some .connect
  | .trigger a _ => some (.request a)
  | .finish a => some (.finish a)
  | .finishInvocation i => if i.epoch = epoch then some (.finish i.action) else none
  | .shutdown => some .clear

/-- The epoch after a step in an epoch. -/
def Step.epochAfter (epoch : Nat) : Step H D → Nat
  | .shutdown => epoch + 1
  | _ => epoch

/-- The moves that the steps of a list are, from an epoch on. -/
def moves : Nat → List (Step H D) → List (Lifecycle.Move H)
  | _, [] => []
  | epoch, s :: steps => (s.move? epoch).toList ++ moves (s.epochAfter epoch) steps

/-- What a client is told of a step, if it is a request. -/
def outcome? (r : Registry H D) : Step H D → Option Outcome
  | .trigger a now => some (r.judge a now).1.outcome
  | _ => none

/-- What clients are told of their requests, in order. -/
def outcomes (r : Registry H D) : List (Step H D) → List Outcome
  | [] => []
  | s :: steps => (r.outcome? s).toList ++ (r.perform s).outcomes steps

/-- A registry is in a state of the machine. -/
structure Realizes (r : Registry H D) (s : Lifecycle H) : Prop where
  /-- The entries have the handlers and the flags. -/
  mapping : ∀ a, s.mapping a = (r.lookup? a).map fun e => (e.handler, e.flags)
  /-- The actions that are running are those that are stamped. -/
  running : ∀ a, a ∈ s.running ↔ (r.runningSince? a).isSome = true
  /-- There is a dispatcher if something leads to the UI thread. -/
  dispatcher : s.hasDispatcher = r.hasDispatcher

/-- A new registry is in the first state of the machine. -/
theorem realizes_new (id capacity : Nat) :
    (new id capacity : Registry H D).Realizes Lifecycle.empty where
  mapping a := by rw [lookup?_new]; rfl
  running a := by simp [Lifecycle.empty, runningSince?]
  dispatcher := rfl

/-- A step ends the epoch if it empties the table. -/
theorem epoch_perform_eq (r : Registry H D) (x : Step H D) :
    (r.perform x).epoch = x.epochAfter r.epoch := by
  rcases r.epoch_perform x with ⟨rfl, h⟩ | ⟨hx, h⟩
  · exact h
  · rw [h]
    cases x with
    | shutdown => exact absurd rfl hx
    | _ => rfl

namespace Realizes

variable {r : Registry H D} {s : Lifecycle H}

/-! ## Queries -/

/-- The machine knows the flags of an action. -/
theorem flags?_eq (hs : r.Realizes s) (a : Action) : s.flags? a = r.flags? a := by
  unfold Lifecycle.flags? Registry.flags?
  rw [hs.mapping, Option.map_map]
  rfl

/-- An action is registered exactly if it has a mapping. -/
theorem isSome_mapping (hs : r.Realizes s) (h : r.WellFormed) (a : Action) :
    (s.mapping a).isSome = r.isRegistered a := by
  rw [h.isRegistered_eq, hs.mapping, Option.isSome_map]

/-- An action with an entry is running exactly if the entry is stamped. -/
theorem mem_running_iff (hs : r.Realizes s) {a : Action} {e : Entry H}
    (he : r.lookup? a = some e) : a ∈ s.running ↔ e.runningSince.isSome = true := by
  rw [hs.running, runningSince?, he, Option.bind_some]

/-- An action is busy exactly if it is blocking and running. -/
theorem isBusy_eq (hs : r.Realizes s) (h : r.Coherent) (a : Action) : s.isBusy a = r.isBusy a := by
  unfold Lifecycle.isBusy
  rw [hs.flags?_eq]
  cases hf : r.flags? a with
  | none =>
    have he : r.lookup? a = none := by simpa [Registry.flags?] using hf
    simp [isBusy, he]
  | some f =>
    have hbusy := h.isBusy_iff hf
    rw [← hs.running] at hbusy
    rw [Bool.eq_iff_iff, hbusy]
    simp

/-- An action holds the dialog slot exactly if it is a dialog action that is running. -/
theorem dialogOwner_eq_some_iff (hs : r.Realizes s) (h : r.Coherent) (a : Action) :
    r.dialogOwner = some a ↔ a ∈ s.running ∧ s.isDialog a = true := by
  unfold Lifecycle.isDialog
  rw [hs.flags?_eq]
  cases hf : r.flags? a with
  | none =>
    have hno : r.dialogOwner ≠ some a := by
      intro ho
      obtain ⟨f, hf', -⟩ := h.dialog_of_owner ho
      simp [hf] at hf'
    simp [hno]
  | some f =>
    rw [h.dialogOwner_iff hf, ← hs.running]
    simp [and_comm]

/-- The dialog slot is taken exactly if a dialog action is running. -/
theorem isSome_dialogOwner_iff (hs : r.Realizes s) (h : r.Coherent) :
    r.dialogOwner.isSome = true ↔ ∃ b ∈ s.running, s.isDialog b = true := by
  rw [Option.isSome_iff_exists]
  exact exists_congr fun b => hs.dialogOwner_eq_some_iff h b

/-- The one dialog action that is running holds the dialog slot. -/
theorem dialogOwner_eq (hs : r.Realizes s) (h : r.Coherent) : s.dialogOwner = r.dialogOwner := by
  have hiff := hs.dialogOwner_eq_some_iff h
  unfold Lifecycle.dialogOwner
  cases hfind : Action.all.find? fun a => decide (a ∈ s.running) && s.isDialog a with
  | some a =>
    have ha := List.find?_some hfind
    simp only [Bool.and_eq_true, decide_eq_true_eq] at ha
    exact ((hiff a).2 ha).symm
  | none =>
    cases ho : r.dialogOwner with
    | none => rfl
    | some a =>
      -- The holder of the slot would have been found.
      have ha := List.find?_eq_none.1 hfind a (Action.mem_all a)
      simp [(hiff a).1 ho] at ha

/-! ## Requests -/

/-- A request is judged as the machine has it: what stands in its way in the registry is what does
in the machine. -/
theorem outcome_judge (hs : r.Realizes s) (h : r.Coherent) (a : Action) (now : Nat) :
    (r.judge a now).1.outcome = s.judge a := by
  unfold Registry.judge Lifecycle.judge
  rw [hs.mapping]
  cases he : r.lookup? a with
  | none => rfl
  | some e =>
    have hbusy : (e.flags.blocks && e.busy) = true ↔ e.flags.blocks = true ∧ a ∈ s.running := by
      rw [h.busy_eq a e he, hs.mem_running_iff he]
      cases e.flags.blocks <;> simp
    have hdialog : (e.flags.dialog && r.dialogOwner.isSome) = true ↔
        e.flags.dialog = true ∧ ∃ b ∈ s.running, s.isDialog b = true := by
      rw [Bool.and_eq_true, hs.isSome_dialogOwner_iff h]
    have huithread : e.flags.needsUiThread = true ↔
        e.flags.uithread = true ∨ e.flags.dialog = true := by simp [Flags.needsUiThread]
    have hroute : (e.flags.needsUiThread && r.dispatcher.isNone) = true ↔
        (e.flags.uithread = true ∨ e.flags.dialog = true) ∧ s.hasDispatcher = false := by
      rw [Bool.and_eq_true, huithread, hs.dispatcher]
      unfold hasDispatcher
      cases r.dispatcher <;> simp
    -- The checks are made in the same order, so they are compared one by one.
    dsimp only [Option.map_some]
    unfold refusal?
    by_cases h1 : (e.flags.blocks && e.busy) = true
    · rw [if_pos h1, if_pos (hbusy.1 h1)]
      rfl
    rw [if_neg h1, if_neg (mt hbusy.2 h1)]
    by_cases h2 : (e.flags.dialog && r.dialogOwner.isSome) = true
    · rw [if_pos h2, if_pos (hdialog.1 h2)]
      obtain ⟨owner, howner⟩ := Option.isSome_iff_exists.1 (Bool.and_eq_true_iff.1 h2).2
      rw [howner]
      rfl
    rw [if_neg h2, if_neg (mt hdialog.2 h2)]
    by_cases h3 : (e.flags.needsUiThread && r.dispatcher.isNone) = true
    · rw [if_pos h3, if_pos (hroute.1 h3)]
      rfl
    rw [if_neg h3, if_neg (mt hroute.2 h3)]
    by_cases h4 : e.flags.needsUiThread = true
    · rw [if_pos (huithread.1 h4)]
      dsimp only
      rw [if_pos h4]
      obtain ⟨d, hd⟩ : ∃ d, r.dispatcher = some d := by
        cases hd : r.dispatcher with
        | none => simp [h4, hd] at h3
        | some d => exact ⟨d, rfl⟩
      rw [hd]
      rfl
    · rw [if_neg (mt huithread.2 h4)]
      dsimp only
      rw [if_neg h4]
      rfl

/-- A request that is refused leaves the whole registry as it is. -/
theorem judge_of_refused (hs : r.Realizes s) (h : r.Coherent) {a : Action}
    (ha : (s.judge a).isAccepted = false) (now : Nat) : (r.judge a now).2 = r := by
  rw [← hs.outcome_judge h a now, Admission.isAccepted_outcome] at ha
  have hnone : r.accepted? (.trigger a now) = none :=
    Option.not_isSome_iff_eq_none.1 (by simpa [accepted?] using ha)
  exact perform_trigger_of_not_accepted hnone

/-- What a request that is accepted issues has the handler and the flags of the action's mapping. -/
theorem mapping_of_accepted (hs : r.Realizes s) (h : r.Coherent) {a : Action} {now : Nat}
    {i : Invocation H} (hi : r.accepted? (.trigger a now) = some i) :
    i.action = a ∧ s.mapping a = some (i.handler, i.flags) := by
  obtain ⟨e, he, -, rfl⟩ := accepted?_trigger_iff.1 hi
  refine ⟨h.action_of_lookup? he, ?_⟩
  rw [hs.mapping, he]
  rfl

/-! ## Steps -/

/-- A request leaves the registry in the state of the machine after the request. -/
theorem request (hs : r.Realizes s) (h : r.Coherent) (a : Action) (now : Nat) :
    (r.perform (.trigger a now)).Realizes (s.perform (.request a)) := by
  have houtcome := hs.outcome_judge h a now
  have haccepted : (s.judge a).isAccepted = (r.accepted? (.trigger a now)).isSome := by
    rw [← houtcome, Admission.isAccepted_outcome]
    rfl
  cases hi : r.accepted? (.trigger a now) with
  | none =>
    have hsame : s.perform (.request a) = s := by
      simp [Lifecycle.perform, haccepted, hi]
    rw [perform_trigger_of_not_accepted hi, hsame]
    exact hs
  | some i =>
    obtain ⟨e, he, hr, -⟩ := accepted?_trigger_iff.1 hi
    have hrunning : (s.perform (.request a)).running =
        if e.flags.needsFinish = true then insert a s.running else s.running := by
      have hflags : s.flags? a = some e.flags := by rw [hs.flags?_eq, Registry.flags?, he]; rfl
      simp only [Lifecycle.perform, haccepted, hi, hflags, Flags.needsFinish, Option.isSome_some,
        Option.any_some, true_and]
      exact apply_ite Lifecycle.running _ _ _
    have hentry := h.lookup?_begin he now
    rw [perform_trigger_of_accepted now he hr]
    refine ⟨fun b => ?_, fun b => ?_, ?_⟩
    · -- The run that begins changes neither handlers nor flags.
      rw [(s.request_frame a).1, hs.mapping, hentry]
      split_ifs with hb
      · rw [hb, he]
        rfl
      · rfl
    · -- The stamp of the action is set exactly if it has to be finished.
      have hstamp : ((r.begin e now).runningSince? b).isSome = true ↔
          (b = a ∧ e.flags.needsFinish = true) ∨ (r.runningSince? b).isSome = true := by
        unfold runningSince?
        rw [hentry]
        split_ifs with hb
        · subst hb
          rw [he]
          cases hf : e.flags.needsFinish <;> simp [Entry.start, hf]
        · simp [hb]
      rw [hstamp, ← hs.running, hrunning]
      split_ifs with hf
      · rw [Finset.mem_insert]
        simp [hf]
      · simp [hf]
    · rw [(s.request_frame a).2, hs.dispatcher]
      unfold hasDispatcher
      rw [(r.begin_frame e now).1]

/-- A release that counts makes the action idle and does nothing else. -/
theorem release (hs : r.Realizes s) (h : r.Coherent) (a : Action) (epoch : Option Nat)
    (hepoch : epoch.all (· == r.epoch) = true) :
    (r.release a epoch).2.Realizes { s with running := s.running.erase a } := by
  have hentry : ∀ b, (r.release a epoch).2.lookup? b =
      if b = a then (r.lookup? b).map (·.stop) else r.lookup? b := by
    intro b
    rw [h.lookup?_release]
    by_cases hb : b = a
    · rw [if_pos ⟨hb, hepoch⟩, if_pos hb, hb]
    · rw [if_neg (fun h' => hb h'.1), if_neg hb]
  refine ⟨fun b => ?_, fun b => ?_, ?_⟩
  · rw [hs.mapping, hentry]
    split_ifs with hb
    · rw [Option.map_map]
      rfl
    · rfl
  -- An action runs if its entry has a stamp, and the release has taken that from one entry.
  · rw [Finset.mem_erase, hs.running]
    unfold runningSince?
    rw [hentry]
    split_ifs with hb
    · cases r.lookup? b <;> simp [hb, Entry.stop]
    · simp [hb]
  · rw [hs.dispatcher]
    unfold hasDispatcher
    rw [(r.release_frame a epoch).1]

/-- Mappings that are offered reach the actions that have none, and nothing that is running
changes. -/
theorem offer (hs : r.Realizes s) (h : r.Coherent) (ms : List (Mapping H)) :
    (r.perform (.register ms)).Realizes (s.perform (.offer ms)) := by
  refine ⟨fun a => ?_, fun a => ?_, ?_⟩
  · show (s.mapping a).or _ = ((r.enrolWhere (fun _ => true) ms).2.lookup? a).map _
    rw [h.lookup?_enrolWhere, hs.mapping]
    simp only [Bool.true_and]
    cases r.lookup? a with
    | some e => rfl
    | none =>
      rw [Option.map_none, Option.none_or, Option.none_or, Option.map_map]
      rfl
  · show a ∈ s.running ↔ _
    rw [hs.running]
    -- To offer mappings neither begins nor ends a run.
    rcases h.runningSince?_perform a (.register ms) with ⟨_, _, heq, -⟩ | ⟨hends, -⟩ | ⟨-, -, hsame⟩
    · simp at heq
    · exact hends.elim
    · rw [hsame]
  · show s.hasDispatcher = _
    rw [hs.dispatcher]
    unfold hasDispatcher
    rw [dispatcher_perform]

/-- Every step leaves the registry in the state of the machine after the move that the step is. -/
theorem perform (hs : r.Realizes s) (h : r.Coherent) (x : Step H D) :
    (r.perform x).Realizes (s.run (x.move? r.epoch).toList) := by
  cases x with
  | register ms => exact hs.offer h ms
  | setDispatcher d => exact ⟨hs.mapping, hs.running, rfl⟩
  | trigger a now => exact hs.request h a now
  | finish a => exact hs.release h a none rfl
  | finishInvocation i =>
    by_cases hi : i.epoch = r.epoch
    · have hmove : (Step.finishInvocation i : Step H D).move? r.epoch = some (.finish i.action) :=
        if_pos hi
      rw [hmove]
      exact hs.release h i.action _ (by simp [hi])
    · -- What is of another table is neither a move nor a change.
      have hmove : (Step.finishInvocation i : Step H D).move? r.epoch = none := if_neg hi
      have hsame : r.perform (.finishInvocation i) = r := by
        simp [Registry.perform, finishInvocation, Registry.release, hi]
      rw [hmove, hsame]
      exact hs
  | shutdown =>
    refine ⟨fun a => ?_, fun a => ?_, rfl⟩
    · show none = (r.shutdown.lookup? a).map _
      rw [lookup?_shutdown]
      rfl
    · show a ∈ (∅ : Finset Action) ↔ (r.shutdown.runningSince? a).isSome = true
      simp [runningSince?]

/-- The registry after a run is in the state of the machine after the moves of the run, and clients
were told the same. -/
theorem run (hs : r.Realizes s) (h : r.Coherent) (steps : List (Step H D)) :
    (r.run steps).Realizes (s.run (moves r.epoch steps)) ∧
      r.outcomes steps = s.outcomes (moves r.epoch steps) := by
  induction steps generalizing r s with
  | nil => exact ⟨hs, rfl⟩
  | cons x steps ih =>
    obtain ⟨hrun, houtcomes⟩ := ih (hs.perform h x) (h.perform x)
    -- What a client is told of a step it is told of the move, if the step is one.
    have hone : (r.outcome? x).toList = s.outcomes (x.move? r.epoch).toList := by
      cases x with
      | trigger a now =>
        show [(r.judge a now).1.outcome] = [s.judge a]
        rw [hs.outcome_judge h]
      | finishInvocation i =>
        show [] = s.outcomes (if _ then _ else _ : Option (Lifecycle.Move H)).toList
        split_ifs <;> rfl
      | _ => rfl
    have hmoves : moves r.epoch (x :: steps) =
        (x.move? r.epoch).toList ++ moves (r.perform x).epoch steps := by
      rw [epoch_perform_eq]
      rfl
    rw [hmoves, Lifecycle.run_append, Lifecycle.outcomes_append]
    refine ⟨hrun, ?_⟩
    rw [← hone, ← houtcomes]
    rfl

end Realizes

/-- A registry implements the machine of idle and running actions. In every state that a new
registry can get into it is in the state in which the machine is after the same moves, and on the
way clients were told the same of their requests. In that state the two give the same answers, each
request is judged as the machine has it, with the handler and the flags of the action's mapping, one
that is refused leaves the whole registry as it is, to finish an action makes it idle and does
nothing else, and every step is the move of the machine that it stands for. -/
theorem realizes_lifecycle (id capacity : Nat) (steps : List (Step H D)) :
    let r : Registry H D := (new id capacity).run steps
    let s : Lifecycle H := Lifecycle.empty.run (moves 0 steps)
    r.Realizes s ∧
    (new id capacity : Registry H D).outcomes steps = Lifecycle.empty.outcomes (moves 0 steps) ∧
    (∀ a, r.isRegistered a = (s.mapping a).isSome ∧ r.flags? a = s.flags? a ∧
      r.isBusy a = s.isBusy a ∧
      ∀ now, a ∈ (r.stalled 0 now).map (·.action) ↔ a ∈ s.running) ∧
    r.dialogOwner = s.dialogOwner ∧ r.hasDispatcher = s.hasDispatcher ∧
    (∀ a now, (r.judge a now).1.outcome = s.judge a ∧
      ((s.judge a).isAccepted = false → (r.judge a now).2 = r) ∧
      (∀ i, (r.judge a now).1.invocation? = some i →
        i.action = a ∧ s.mapping a = some (i.handler, i.flags)) ∧
      (r.judge a now).2.Realizes (s.perform (.request a))) ∧
    (∀ a, (r.finish a).2.Realizes { s with running := s.running.erase a }) ∧
    (∀ x : Step H D, (r.perform x).Realizes (s.run (x.move? r.epoch).toList)) := by
  intro r s
  have h : r.Coherent := (coherent_new id capacity).run steps
  obtain ⟨hs, houtcomes⟩ : r.Realizes s ∧ _ :=
    (realizes_new id capacity).run (coherent_new id capacity) steps
  refine ⟨hs, houtcomes, fun a => ?_, (hs.dialogOwner_eq h).symm, hs.dispatcher.symm, ?_,
    fun a => hs.release h a none rfl, hs.perform h⟩
  · refine ⟨(hs.isSome_mapping h.toWellFormed a).symm, (hs.flags?_eq a).symm,
      (hs.isBusy_eq h a).symm, fun now => ?_⟩
    rw [h.mem_stalled_zero_iff, ← h.isSome_runningSince?_iff, hs.running]
  · intro a now
    exact ⟨hs.outcome_judge h a now, fun ha => hs.judge_of_refused h ha now,
      fun i hi => hs.mapping_of_accepted h hi, hs.request h a now⟩

/-- While one dialog is running another is dropped, and when the first is finished it is not. -/
example : (Lifecycle.empty : Lifecycle Unit).outcomes
    [.offer [⟨.quit, (), Flags.none.asDialog⟩, ⟨.aboutDialog, (), Flags.none.asDialog⟩], .connect,
      .request .quit, .request .aboutDialog, .finish .quit, .request .aboutDialog] =
    [.dispatched, .droppedDialog, .dispatched] := by decide

end Registry

end Switchboard
