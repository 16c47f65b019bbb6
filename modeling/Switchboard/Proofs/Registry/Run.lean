import Switchboard.Proofs.Registry.Table

/-!
# Runs of a registry

Clients use a registry one step at a time, each under its lock: they add mappings, set the
dispatcher, request actions, release them and empty the table. Handlers run with the lock released,
so what a handler does is steps like those of any other client, and a run of the registry under any
number of clients is a list of steps in the order in which they took the lock. Starting over with an
empty table is the same step as emptying it.

`accepted?_eq_some_iff` says which steps issue an invocation and `lookup?_perform` what a step can
do to the entry of an action; both are used in place of the definitions of the operations.
-/

namespace Switchboard

/-- One thing that a client does with a registry, in one step. -/
inductive Registry.Step (H D : Type)
  /-- Offer mappings. -/
  | register (ms : List (Mapping H))
  /-- Set the dispatcher. -/
  | setDispatcher (d : D)
  /-- Request an action, at a time on the clock. -/
  | trigger (a : Action) (now : Nat)
  /-- Finish an action by its identifier. -/
  | finish (a : Action)
  /-- Finish an invocation, one of those that were issued or any other. -/
  | finishInvocation (i : Invocation H)
  /-- Empty the table. -/
  | shutdown

/-- The invocation that a judgement issues, if the request is accepted. -/
def Admission.invocation? {H D : Type} : Admission H D → Option (Invocation H)
  | .refused _ => none
  | .accepted i _ => some i

/-- A request is accepted exactly when its caller is told that the handler ran or was handed
over. -/
theorem Admission.isAccepted_outcome {H D : Type} (v : Admission H D) :
    v.outcome.isAccepted = v.invocation?.isSome := by
  cases v with
  | refused why => cases why <;> rfl
  | accepted i route => cases route <;> rfl

namespace Registry

variable {H D : Type}

/-- The registry after one step. -/
def perform (r : Registry H D) : Step H D → Registry H D
  | .register ms => (r.register ms).2
  | .setDispatcher d => r.setDispatcher d
  | .trigger a now => (r.judge a now).2
  | .finish a => (r.finish a).2
  | .finishInvocation i => (r.finishInvocation i).2
  | .shutdown => r.shutdown

/-- The registry after the steps of a list. -/
def run (r : Registry H D) (steps : List (Step H D)) : Registry H D := steps.foldl perform r

/-- The invocation that a step issues, if it is a request that is accepted. -/
def accepted? (r : Registry H D) : Step H D → Option (Invocation H)
  | .trigger a now => (r.judge a now).1.invocation?
  | _ => none

/-- The invocations that are issued in a run, in order. -/
def accepted (r : Registry H D) : List (Step H D) → List (Invocation H)
  | [] => []
  | s :: steps => (r.accepted? s).toList ++ (r.perform s).accepted steps

/-- A step ends the run of an action if it is a release of the action that counts or empties the
table. The finish of an invocation counts in the epoch of the invocation. -/
def EndsRun (r : Registry H D) (a : Action) : Step H D → Prop
  | .finish b => b = a
  | .finishInvocation i => i.action = a ∧ i.epoch = r.epoch
  | .shutdown => True
  | _ => False

/-- Something happens at some step of a run; what happens depends on the step and on the registry
that it is taken in. -/
def Occurs (happens : Registry H D → Step H D → Prop) (r : Registry H D) : List (Step H D) → Prop
  | [] => False
  | s :: steps => happens r s ∨ (r.perform s).Occurs happens steps

/-- Some step of a run ends the run of an action. -/
def Frees (r : Registry H D) (a : Action) (steps : List (Step H D)) : Prop :=
  r.Occurs (fun r s => r.EndsRun a s) steps

/-- Without steps the registry stays as it is. -/
@[simp] theorem run_nil (r : Registry H D) : r.run [] = r := rfl

/-- The first step is taken first. -/
@[simp] theorem run_cons (r : Registry H D) (s : Step H D) (steps : List (Step H D)) :
    r.run (s :: steps) = (r.perform s).run steps := rfl

/-- A run can be cut anywhere. -/
theorem run_append (r : Registry H D) (before after : List (Step H D)) :
    r.run (before ++ after) = (r.run before).run after :=
  List.foldl_append

/-- Something happens in a run exactly when the run can be cut at a step where it does. -/
theorem occurs_iff {happens : Registry H D → Step H D → Prop} {r : Registry H D}
    {steps : List (Step H D)} :
    r.Occurs happens steps ↔
      ∃ before s after, steps = before ++ s :: after ∧ happens (r.run before) s := by
  induction steps generalizing r with
  | nil => simp [Occurs]
  | cons s steps ih =>
    rw [Occurs, ih]
    constructor
    · rintro (h | ⟨before, t, after, rfl, h⟩)
      · exact ⟨[], s, steps, rfl, h⟩
      · exact ⟨s :: before, t, after, rfl, h⟩
    -- The cut lies before the first step or behind it.
    · rintro ⟨before, t, after, heq, h⟩
      cases before with
      | nil =>
        obtain ⟨rfl, rfl⟩ := List.cons.inj heq
        exact .inl h
      | cons s' before =>
        obtain ⟨rfl, rfl⟩ := List.cons.inj heq
        exact .inr ⟨before, t, after, rfl, h⟩

/-- Something happens in a run of two parts if it does in one of them. -/
theorem occurs_append {happens : Registry H D → Step H D → Prop} {r : Registry H D}
    {before after : List (Step H D)} :
    r.Occurs happens (before ++ after) ↔
      r.Occurs happens before ∨ (r.run before).Occurs happens after := by
  induction before generalizing r with
  | nil => simp [Occurs]
  | cons s before ih =>
    rw [List.cons_append, Occurs, Occurs, ih, run_cons, or_assoc]

/-! ## What a request does -/

/-- A request is not refused exactly when a blocking action is idle, the slot is free for a dialog,
and something leads to the UI thread if the action runs there. -/
theorem refusal?_eq_none_iff (r : Registry H D) (e : Entry H) :
    r.refusal? e = none ↔ (e.flags.blocks = true → e.busy = false) ∧
      (e.flags.dialog = true → r.dialogOwner = none) ∧
      (e.flags.needsUiThread = true → r.dispatcher.isSome = true) := by
  unfold refusal?
  cases e.flags.blocks <;> cases e.busy <;> cases e.flags.dialog <;> cases r.dialogOwner <;>
    cases e.flags.needsUiThread <;> cases r.dispatcher <;> simp

/-- While something leads to the UI thread, a request for an action with an entry is only refused
because something is in flight. -/
theorem isDropped_of_refusal? {r : Registry H D} {e : Entry H} {why : Refusal}
    (hr : r.refusal? e = some why) (hd : r.dispatcher.isSome = true) :
    why.outcome.isDropped = true := by
  unfold refusal? at hr
  split_ifs at hr with hbusy hdialog hroute
  · obtain rfl := Option.some.inj hr
    rfl
  · obtain ⟨owner, -, rfl⟩ := Option.map_eq_some_iff.1 hr
    rfl
  · simp [Option.isNone_iff_eq_none.1 (Bool.and_eq_true_iff.1 hroute).2] at hd

/-- The judgement of a request does not depend on the time. -/
theorem judge_fst (r : Registry H D) (a : Action) (t u : Nat) :
    (r.judge a t).1 = (r.judge a u).1 := by
  unfold judge
  cases r.lookup? a with
  | none => rfl
  | some e => dsimp only; cases r.refusal? e <;> rfl

/-- What it takes for a request to be accepted, and what it does then. -/
theorem judge_accepted_iff {r r' : Registry H D} {a : Action} {now : Nat} {i : Invocation H}
    {route : Option D} :
    r.judge a now = (.accepted i route, r') ↔
      ∃ e, r.lookup? a = some e ∧ r.refusal? e = none ∧ r.issue e = i ∧
        (if e.flags.needsUiThread then r.dispatcher else none) = route ∧ r.begin e now = r' := by
  unfold judge
  cases he : r.lookup? a with
  | none => simp
  | some e => cases hr : r.refusal? e <;> simp [hr, and_assoc]

/-- A request is accepted exactly when its action has an entry that is not refused. -/
theorem accepted?_trigger_iff {r : Registry H D} {a : Action} {now : Nat} {i : Invocation H} :
    r.accepted? (.trigger a now) = some i ↔
      ∃ e, r.lookup? a = some e ∧ r.refusal? e = none ∧ r.issue e = i := by
  unfold accepted? judge
  cases he : r.lookup? a with
  | none => simp [he, Admission.invocation?]
  | some e => cases hr : r.refusal? e <;> simp [he, hr, Admission.invocation?]

/-- Only requests issue invocations. -/
theorem accepted?_eq_some_iff {r : Registry H D} {s : Step H D} {i : Invocation H} :
    r.accepted? s = some i ↔ ∃ a now e, s = .trigger a now ∧ r.lookup? a = some e ∧
      r.refusal? e = none ∧ r.issue e = i := by
  constructor
  · intro h
    cases s with
    | trigger a now =>
      obtain ⟨e, he, hr, hi⟩ := accepted?_trigger_iff.1 h
      exact ⟨a, now, e, rfl, he, hr, hi⟩
    | _ => simp [accepted?] at h
  · rintro ⟨a, now, e, rfl, he, hr, hi⟩
    exact accepted?_trigger_iff.2 ⟨e, he, hr, hi⟩

/-- What a request issues is for the action that it asks for. -/
theorem WellFormed.action_of_accepted {r : Registry H D} (h : r.WellFormed) {a : Action} {now : Nat}
    {i : Invocation H} (hi : r.accepted? (.trigger a now) = some i) : i.action = a := by
  obtain ⟨e, he, -, rfl⟩ := accepted?_trigger_iff.1 hi
  exact h.action_of_lookup? he

/-- A request that is not refused begins a run. -/
theorem perform_trigger_of_accepted {r : Registry H D} {a : Action} {e : Entry H} (now : Nat)
    (he : r.lookup? a = some e) (hr : r.refusal? e = none) :
    r.perform (.trigger a now) = r.begin e now := by
  simp [perform, judge, he, hr]

/-- A request that is refused, or for an action without entry, changes nothing. -/
theorem perform_trigger_of_not_accepted {r : Registry H D} {a : Action} {now : Nat}
    (h : r.accepted? (.trigger a now) = none) : r.perform (.trigger a now) = r := by
  have hj : r.judge a now = ((r.judge a now).1, (r.judge a now).2) := rfl
  cases hv : (r.judge a now).1 with
  | refused why => exact judge_refused (hv ▸ hj)
  | accepted i route => simp [accepted?, hv, Admission.invocation?] at h

/-! ## What a step can do -/

/-- Every step leaves a registry well-formed. -/
theorem WellFormed.perform {r : Registry H D} (h : r.WellFormed) (s : Step H D) :
    (r.perform s).WellFormed := by
  cases s with
  | register ms => exact h.enrolWhere _ ms
  | setDispatcher d => exact ⟨h.index_iff, h.real⟩
  | trigger a now =>
    cases hi : r.accepted? (.trigger a now) with
    | none => rw [perform_trigger_of_not_accepted hi]; exact h
    | some i =>
      obtain ⟨e, he, hr, -⟩ := accepted?_trigger_iff.1 hi
      rw [perform_trigger_of_accepted now he hr]
      exact h.begin e now
  | finish a => exact h.release a none
  | finishInvocation i => exact h.release i.action (some i.epoch)
  | shutdown => exact wellFormed_shutdown r

/-- Every run leaves a registry well-formed. -/
theorem WellFormed.run {r : Registry H D} (h : r.WellFormed) (steps : List (Step H D)) :
    (r.run steps).WellFormed := by
  induction steps generalizing r with
  | nil => exact h
  | cons s steps ih => exact ih (h.perform s)

/-- The finish of an invocation of this epoch stops the entry of its action, and no other finish of
an invocation does anything to an entry. -/
theorem WellFormed.lookup?_finishInvocation {r : Registry H D} (h : r.WellFormed) (i : Invocation H)
    (b : Action) :
    (r.finishInvocation i).2.lookup? b =
      if b = i.action ∧ i.epoch = r.epoch then (r.lookup? b).map (·.stop) else r.lookup? b := by
  unfold Registry.finishInvocation
  rw [h.lookup?_release]
  simp only [Option.all_some, beq_iff_eq]
  split_ifs with hb
  · rw [hb.1]
  · rfl

/-- A finish stops the entry of its action and leaves the others. -/
theorem WellFormed.lookup?_finish {r : Registry H D} (h : r.WellFormed) (a b : Action) :
    (r.finish a).2.lookup? b = if b = a then (r.lookup? b).map (·.stop) else r.lookup? b := by
  unfold Registry.finish
  rw [h.lookup?_release]
  simp only [Option.all_none, and_true]
  split_ifs with hb
  · rw [hb]
  · rfl

/-- What a step can do to the entry of an action, emptying the table apart: it accepts a request for
the action and begins a run, it ends the action's run, or it leaves the entry as it is. -/
theorem WellFormed.lookup?_perform {r : Registry H D} (h : r.WellFormed) {a : Action} {e : Entry H}
    (he : r.lookup? a = some e) {s : Step H D} (hs : s ≠ .shutdown) :
    (∃ now, s = .trigger a now ∧ r.refusal? e = none ∧
      (r.perform s).lookup? a = some (e.start now)) ∨
    (r.EndsRun a s ∧ (r.perform s).lookup? a = some e.stop) ∨
    (¬ r.EndsRun a s ∧ (∀ i, r.accepted? s = some i → i.action ≠ a) ∧
      (r.perform s).lookup? a = some e) := by
  cases s with
  | register ms =>
    refine .inr (.inr ⟨False.elim, by simp [accepted?], ?_⟩)
    show (r.enrolWhere _ ms).2.lookup? a = some e
    rw [h.lookup?_enrolWhere, he]
    rfl
  | setDispatcher d => exact .inr (.inr ⟨False.elim, by simp [accepted?], he⟩)
  | trigger b now =>
    cases hi : r.accepted? (.trigger b now) with
    | none =>
      rw [perform_trigger_of_not_accepted hi]
      exact .inr (.inr ⟨False.elim, by simp, he⟩)
    | some i =>
      obtain ⟨e', he', hr, rfl⟩ := accepted?_trigger_iff.1 hi
      rw [perform_trigger_of_accepted now he' hr, h.lookup?_begin he']
      by_cases hb : a = b
      · subst hb
        rw [he] at he'
        obtain rfl := Option.some.inj he'
        exact .inl ⟨now, rfl, hr, by rw [if_pos rfl]⟩
      · -- The request is accepted for another action, whose entry is another one.
        refine .inr (.inr ⟨False.elim, ?_, by rw [if_neg hb, he]⟩)
        rintro i hi' rfl
        rw [← Option.some.inj hi'] at hb
        exact hb (h.action_of_lookup? he')
  | finish b =>
    show _ ∨ (b = a ∧ (r.finish b).2.lookup? a = _) ∨ (¬ b = a ∧ _ ∧ (r.finish b).2.lookup? a = _)
    rw [h.lookup?_finish, he]
    by_cases hb : a = b
    · exact .inr (.inl ⟨hb.symm, by rw [if_pos hb]; rfl⟩)
    · exact .inr (.inr ⟨Ne.symm hb, by simp [accepted?], by rw [if_neg hb]⟩)
  | finishInvocation i =>
    show _ ∨ ((i.action = a ∧ i.epoch = r.epoch) ∧ (r.finishInvocation i).2.lookup? a = _) ∨
      (¬ (i.action = a ∧ i.epoch = r.epoch) ∧ _ ∧ (r.finishInvocation i).2.lookup? a = _)
    rw [h.lookup?_finishInvocation, he]
    by_cases hb : a = i.action ∧ i.epoch = r.epoch
    · exact .inr (.inl ⟨⟨hb.1.symm, hb.2⟩, by rw [if_pos hb]; rfl⟩)
    · exact .inr (.inr ⟨fun h' => hb ⟨h'.1.symm, h'.2⟩, by simp [accepted?], by rw [if_neg hb]⟩)
  | shutdown => exact absurd rfl hs

/-- Every step but the one that empties the table keeps an action's handler and flags. -/
theorem WellFormed.perform_keeps_mapping {r : Registry H D} (h : r.WellFormed) {a : Action}
    {e : Entry H} (he : r.lookup? a = some e) {s : Step H D} (hs : s ≠ .shutdown) :
    ∃ e', (r.perform s).lookup? a = some e' ∧ e'.flags = e.flags ∧ e'.handler = e.handler := by
  rcases h.lookup?_perform he hs with ⟨now, -, -, h'⟩ | ⟨-, h'⟩ | ⟨-, -, h'⟩
  · exact ⟨_, h', rfl, rfl⟩
  · exact ⟨_, h', rfl, rfl⟩
  · exact ⟨_, h', rfl, rfl⟩

/-- An action that has no entry can get one only from a mapping that is offered for it. -/
theorem WellFormed.mapping_of_new_entry {r : Registry H D} (h : r.WellFormed) {a : Action}
    {e : Entry H} {s : Step H D} (hn : r.lookup? a = none) (he : (r.perform s).lookup? a = some e) :
    ∃ ms m, s = .register ms ∧ m ∈ ms ∧ m.action = a ∧ .ofMapping m = e := by
  cases s with
  | register ms =>
    replace he : (r.enrolWhere (fun _ => true) ms).2.lookup? a = some e := he
    rw [h.lookup?_enrolWhere, hn, Option.none_or] at he
    obtain ⟨m, hm, hentry⟩ := Option.map_eq_some_iff.1 he
    have haction : m.action = a := by
      have hfound := List.find?_some hm
      simp only [Bool.and_eq_true, beq_iff_eq] at hfound
      exact hfound.2
    exact ⟨ms, m, rfl, List.mem_of_find?_eq_some hm, haction, hentry⟩
  | setDispatcher d =>
    replace he : r.lookup? a = some e := he
    simp [hn] at he
  | trigger b now =>
    cases hi : r.accepted? (.trigger b now) with
    | none =>
      rw [perform_trigger_of_not_accepted hi, hn] at he
      simp at he
    | some i =>
      obtain ⟨e', he', hr, -⟩ := accepted?_trigger_iff.1 hi
      rw [perform_trigger_of_accepted now he' hr, h.lookup?_begin he'] at he
      -- A request is accepted only for an action that has an entry already.
      by_cases hb : a = b
      · simp [← hb, hn] at he'
      · simp [hb, hn] at he
  | finish b =>
    replace he : (r.finish b).2.lookup? a = some e := he
    rw [h.lookup?_finish, hn] at he
    simp at he
  | finishInvocation i =>
    replace he : (r.finishInvocation i).2.lookup? a = some e := he
    rw [h.lookup?_finishInvocation, hn] at he
    simp at he
  | shutdown =>
    replace he : r.shutdown.lookup? a = some e := he
    simp at he

/-- What has got an entry is not running. -/
theorem WellFormed.idle_of_new_entry {r : Registry H D} (h : r.WellFormed) {a : Action}
    {e : Entry H} {s : Step H D} (hn : r.lookup? a = none) (he : (r.perform s).lookup? a = some e) :
    e.busy = false ∧ e.runningSince = none := by
  obtain ⟨ms, m, -, -, -, rfl⟩ := h.mapping_of_new_entry hn he
  exact ⟨rfl, rfl⟩

/-- What is bound to actions is all of one kind. -/
def BindsOnly (kind : Mapping H → Prop) (r : Registry H D) : Prop :=
  ∀ a e, r.lookup? a = some e → kind ⟨a, e.handler, e.flags⟩

/-- What is bound stays of a kind as long as nothing else is offered. -/
theorem BindsOnly.perform {kind : Mapping H → Prop} {r : Registry H D} (hr : r.BindsOnly kind)
    (h : r.WellFormed) {s : Step H D} (hs : ∀ ms, s = .register ms → ∀ m ∈ ms, kind m) :
    (r.perform s).BindsOnly kind := by
  intro a e he
  cases hbefore : r.lookup? a with
  | none =>
    obtain ⟨ms, m, rfl, hm, rfl, rfl⟩ := h.mapping_of_new_entry hbefore he
    exact hs ms rfl m hm
  | some e' =>
    have hne : s ≠ .shutdown := by
      rintro rfl
      simp [Registry.perform] at he
    obtain ⟨e'', he'', hflags, hhandler⟩ := h.perform_keeps_mapping hbefore hne
    obtain rfl := Option.some.inj (he.symm.trans he'')
    rw [hflags, hhandler]
    exact hr a e' hbefore

/-- What a release that counts does to an action with an entry. -/
theorem release_of_lookup? {r : Registry H D} {a : Action} {e : Entry H}
    (he : r.lookup? a = some e) {epoch : Option Nat} (hepoch : epoch.any (· != r.epoch) = false) :
    r.release a epoch =
      (if e.busy || (e.flags.dialog && r.dialogOwner == some a) then .finished else .idle,
        { r.updateEntry a (·.stop) with
          dialogOwner := if e.flags.dialog && r.dialogOwner == some a then none
            else r.dialogOwner }) := by
  unfold release
  rw [hepoch, he]
  rfl

/-! ## What steps leave alone -/

/-- A release changes nothing but the entries and the dialog slot. -/
theorem release_eq (r : Registry H D) (a : Action) (epoch : Option Nat) :
    ∃ es owner, (r.release a epoch).2 = { r with entries := es, dialogOwner := owner } := by
  unfold release
  split
  · exact ⟨_, _, rfl⟩
  · split
    · exact ⟨_, _, rfl⟩
    · obtain ⟨es, hes⟩ := r.updateEntry_eq a (·.stop)
      exact ⟨es, _, by rw [hes]⟩

/-- A run that begins changes nothing but the entries and the dialog slot. -/
theorem begin_eq (r : Registry H D) (e : Entry H) (now : Nat) :
    ∃ es owner, r.begin e now = { r with entries := es, dialogOwner := owner } := by
  obtain ⟨es, hes⟩ := r.updateEntry_eq e.action (·.start now)
  exact ⟨es, _, by rw [Registry.begin, hes]⟩

/-- A request changes nothing but the entries and the dialog slot. -/
theorem trigger_eq (r : Registry H D) (a : Action) (now : Nat) :
    ∃ es owner, r.perform (.trigger a now) = { r with entries := es, dialogOwner := owner } := by
  cases hi : r.accepted? (.trigger a now) with
  | none => exact ⟨_, _, perform_trigger_of_not_accepted hi⟩
  | some i =>
    obtain ⟨e, he, hr, -⟩ := accepted?_trigger_iff.1 hi
    rw [perform_trigger_of_accepted now he hr]
    exact r.begin_eq e now

/-- A release leaves the dispatcher and the epoch. -/
theorem release_frame (r : Registry H D) (a : Action) (epoch : Option Nat) :
    (r.release a epoch).2.dispatcher = r.dispatcher ∧ (r.release a epoch).2.epoch = r.epoch := by
  obtain ⟨es, owner, h⟩ := r.release_eq a epoch
  rw [h]
  exact ⟨rfl, rfl⟩

/-- A run that begins leaves the dispatcher and the epoch. -/
theorem begin_frame (r : Registry H D) (e : Entry H) (now : Nat) :
    (r.begin e now).dispatcher = r.dispatcher ∧ (r.begin e now).epoch = r.epoch := by
  obtain ⟨es, owner, h⟩ := r.begin_eq e now
  rw [h]
  exact ⟨rfl, rfl⟩

/-- The dispatcher changes only when one is set and when the table is emptied. -/
theorem dispatcher_perform (r : Registry H D) (s : Step H D) :
    (r.perform s).dispatcher = match s with
      | .setDispatcher d => some d
      | .shutdown => none
      | _ => r.dispatcher := by
  cases s with
  | register ms => exact (enrolWhere_frame r _ ms).2.1
  | setDispatcher d => rfl
  | trigger a now =>
    obtain ⟨es, owner, h⟩ := r.trigger_eq a now
    rw [h]
  | finish a => exact (release_frame r a none).1
  | finishInvocation i => exact (release_frame r i.action (some i.epoch)).1
  | shutdown => rfl

/-- Only emptying the table takes the dispatcher away. -/
theorem isSome_dispatcher_perform {r : Registry H D} {s : Step H D} (hs : s ≠ .shutdown)
    (hd : r.dispatcher.isSome = true) : (r.perform s).dispatcher.isSome = true := by
  rw [dispatcher_perform]
  cases s with
  | setDispatcher d => rfl
  | shutdown => exact absurd rfl hs
  | _ => exact hd

/-- The epoch tells how often the table was emptied. -/
theorem epoch_perform (r : Registry H D) (s : Step H D) :
    (s = .shutdown ∧ (r.perform s).epoch = r.epoch + 1) ∨
      (s ≠ .shutdown ∧ (r.perform s).epoch = r.epoch) := by
  cases s with
  | register ms => exact .inr ⟨by simp, (enrolWhere_frame r _ ms).2.2.2⟩
  | setDispatcher d => exact .inr ⟨by simp, rfl⟩
  | trigger a now =>
    obtain ⟨es, owner, h⟩ := r.trigger_eq a now
    exact .inr ⟨by simp, by rw [h]⟩
  | finish a => exact .inr ⟨by simp, (release_frame r a none).2⟩
  | finishInvocation i => exact .inr ⟨by simp, (release_frame r i.action (some i.epoch)).2⟩
  | shutdown => exact .inl ⟨rfl, rfl⟩

/-- An action is busy after a step only if the step leaves the table there, and accepts a request for
the action or does not end the run for which it was busy before. -/
theorem WellFormed.isBusy_perform {r : Registry H D} (h : r.WellFormed) {a : Action} {s : Step H D}
    (hbusy : (r.perform s).isBusy a = true) :
    (r.perform s).epoch = r.epoch ∧
      ((∃ now e, s = .trigger a now ∧ r.lookup? a = some e ∧ r.refusal? e = none) ∨
        (r.isBusy a = true ∧ ¬ r.EndsRun a s)) := by
  rcases r.epoch_perform s with ⟨rfl, -⟩ | ⟨hs, hepoch⟩
  · simp [Registry.perform, isBusy] at hbusy
  · refine ⟨hepoch, ?_⟩
    cases he : r.lookup? a with
    | none =>
      -- What has got an entry is idle.
      cases hafter : (r.perform s).lookup? a with
      | none => simp [isBusy, hafter] at hbusy
      | some e => simp [isBusy, hafter, (h.idle_of_new_entry he hafter).1] at hbusy
    | some e =>
      rcases h.lookup?_perform he hs with ⟨now, rfl, hr, -⟩ | ⟨-, he'⟩ | ⟨hends, -, he'⟩
      · exact .inl ⟨now, e, rfl, rfl, hr⟩
      · simp [isBusy, he', Entry.stop] at hbusy
      · rw [isBusy, he'] at hbusy
        exact .inr ⟨by rw [isBusy, he]; exact hbusy, hends⟩

/-- No step changes what a registry is known by. -/
theorem id_perform (r : Registry H D) (s : Step H D) : (r.perform s).id = r.id := by
  cases s with
  | register ms => exact (enrolWhere_frame r _ ms).1
  | setDispatcher d => rfl
  | trigger a now =>
    obtain ⟨es, owner, h⟩ := r.trigger_eq a now
    rw [h]
  | finish a =>
    obtain ⟨es, owner, h⟩ := r.release_eq a none
    exact (congrArg Registry.id h :)
  | finishInvocation i =>
    obtain ⟨es, owner, h⟩ := r.release_eq i.action (some i.epoch)
    exact (congrArg Registry.id h :)
  | shutdown => rfl

end Registry

end Switchboard
