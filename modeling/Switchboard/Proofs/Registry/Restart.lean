import Switchboard.Proofs.Registry.Ownership

/-!
# Starting over with an empty table

After its table has been emptied a registry is as good as new: whatever is asked of it and done with
it, the answers are those of a registry that has just been made with the same capacity, and the
invocations that were issued before have no effect on it any more (`shutdown_starts_afresh`).

An emptied registry differs from a new one in its number and in its epoch, and `rebased` takes the
one for the other. No operation looks at the number, and the epoch is only compared with that of an
invocation, so every operation commutes with `rebased` if the invocations are rebased as well
(`perform_rebased`, `reply_rebased`). An invocation that was issued before has an epoch that is over
for good (`Era.Outlives`).
-/

namespace Switchboard

/-- The invocation without the registry and the epoch that it is of: the mapping that it runs. -/
def Invocation.mapping {H : Type} (i : Invocation H) : Mapping H := ⟨i.action, i.handler, i.flags⟩

/-- An invocation with another registry and an epoch that is later by some. -/
def Invocation.rebased {H : Type} (id shift : Nat) (i : Invocation H) : Invocation H :=
  { i with registry := id, epoch := shift + i.epoch }

/-- The dispatcher to which a judgement sends the invocation. -/
def Admission.route? {H D : Type} : Admission H D → Option D
  | .refused _ => none
  | .accepted _ route => route

namespace Registry

/-- What a client learns from a step. -/
inductive Reply (H D : Type)
  /-- What became of the mappings that were offered. -/
  | enrolled (report : Report)
  /-- What became of a request, what is run if it was accepted, and through which dispatcher. -/
  | judged (outcome : Outcome) (runs : Option (Mapping H)) (route : Option D)
  /-- What became of a release. -/
  | released (release : Release)
  /-- Nothing but that the step was taken. -/
  | done

/-- What a registry answers to all that can be asked of it. -/
structure Answers where
  /-- Whether an action has a mapping. -/
  isRegistered : Action → Bool
  /-- Whether a blocking run of an action is in flight. -/
  isBusy : Action → Bool
  /-- The flags of an action's mapping. -/
  flags? : Action → Option Flags
  /-- The dialog action that holds the dialog slot. -/
  dialogOwner : Option Action
  /-- Whether the dialog slot is taken. -/
  isDialogActive : Bool
  /-- Whether something leads to the UI thread. -/
  hasDispatcher : Bool
  /-- The number of mappings. -/
  size : Nat
  /-- Whether there is no mapping. -/
  isEmpty : Bool
  /-- The number of mappings for which there is room. -/
  capacity : Nat
  /-- The actions that have a mapping, in order. -/
  registered : List Action
  /-- The runs that are of some age at some time. -/
  stalled : Nat → Nat → List StalledRun

variable {H D : Type}

/-- What the client that takes a step learns from it. -/
def reply (r : Registry H D) : Step H D → Reply H D
  | .register ms => .enrolled (r.register ms).1
  | .setDispatcher _ => .done
  | .trigger a now =>
    let v := (r.judge a now).1
    .judged v.outcome (v.invocation?.map (·.mapping)) v.route?
  | .finish a => .released (r.finish a).1
  | .finishInvocation i => .released (r.finishInvocation i).1
  | .shutdown => .done

/-- The answers of a registry. -/
def answers (r : Registry H D) : Answers where
  isRegistered := r.isRegistered
  isBusy := r.isBusy
  flags? := r.flags?
  dialogOwner := r.dialogOwner
  isDialogActive := r.isDialogActive
  hasDispatcher := r.hasDispatcher
  size := r.size
  isEmpty := r.isEmpty
  capacity := r.capacity
  registered := r.registered
  stalled := r.stalled

/-! ## Another number and a later epoch -/

/-- A registry with another number and an epoch that is later by some. -/
def rebased (id shift : Nat) (r : Registry H D) : Registry H D :=
  { r with id, epoch := shift + r.epoch }

/-- A step with the invocation that it finishes, if it finishes one, in a later epoch. -/
def Step.rebased (id shift : Nat) : Step H D → Step H D
  | .finishInvocation i => .finishInvocation (i.rebased id shift)
  | s => s

/-- An emptied registry is a new one with another number and a later epoch. -/
theorem shutdown_eq_rebased {r : Registry H D} {capacity : Nat}
    (hr : r.initialCapacity = max capacity 1) (id : Nat) :
    r.shutdown = (new id capacity).rebased r.id (r.epoch + 1) := by
  simp [shutdown, rebased, new, hr]

section

variable (r : Registry H D) (id shift : Nat)

/-- The entries are the same. -/
@[simp] theorem lookup?_rebased (a : Action) : (r.rebased id shift).lookup? a = r.lookup? a := rfl

/-- Requests are refused for the same reasons. -/
@[simp] theorem refusal?_rebased (e : Entry H) :
    (r.rebased id shift).refusal? e = r.refusal? e := rfl

/-- An entry changes the same. -/
theorem updateEntry_rebased (a : Action) (f : Entry H → Entry H) :
    (r.rebased id shift).updateEntry a f = (r.updateEntry a f).rebased id shift := by
  unfold updateEntry rebased
  cases r.index.get a <;> rfl

/-- A run starts the same. -/
theorem begin_rebased (e : Entry H) (now : Nat) :
    (r.rebased id shift).begin e now = (r.begin e now).rebased id shift := by
  unfold Registry.begin
  rw [updateEntry_rebased]
  rfl

/-- A request is judged the same; what is issued is of the later epoch. -/
theorem judge_rebased (a : Action) (now : Nat) :
    (r.rebased id shift).judge a now = match r.judge a now with
      | (.refused why, r') => (.refused why, r'.rebased id shift)
      | (.accepted i route, r') => (.accepted (i.rebased id shift) route, r'.rebased id shift) := by
  unfold judge
  rw [lookup?_rebased]
  cases r.lookup? a with
  | none => rfl
  | some e =>
    dsimp only
    rw [refusal?_rebased]
    cases r.refusal? e with
    | some why => rfl
    | none =>
      dsimp only
      rw [begin_rebased]
      rfl

/-- A release is the same, if the epoch that it is for is later as well. -/
theorem release_rebased (a : Action) (epoch : Option Nat) :
    (r.rebased id shift).release a (epoch.map (shift + ·)) =
      ((r.release a epoch).1, (r.release a epoch).2.rebased id shift) := by
  -- An epoch is only compared with that of the registry, and both are later by the same.
  have hstale : (epoch.map (shift + ·)).any (· != (r.rebased id shift).epoch) =
      epoch.any (· != r.epoch) := by
    cases epoch with
    | none => rfl
    | some n => simp [rebased, bne]
  unfold release
  rw [hstale]
  split
  · rfl
  · rw [lookup?_rebased]
    cases r.lookup? a with
    | none => rfl
    | some e =>
      dsimp only
      rw [updateEntry_rebased]
      rfl

/-- Mappings fare the same. -/
theorem enrolWhere_rebased (keep : Action → Bool) (ms : List (Mapping H)) :
    (r.rebased id shift).enrolWhere keep ms =
      ((r.enrolWhere keep ms).1, (r.enrolWhere keep ms).2.rebased id shift) := by
  have one : ∀ (r : Registry H D) (m : Mapping H),
      (r.rebased id shift).enrol m = ((r.enrol m).1, (r.enrol m).2.rebased id shift) := by
    intro r m
    unfold enrol
    show (if _ then _ else if r.isRegistered m.action then _ else _) = _
    split_ifs <;> rfl
  induction ms generalizing r with
  | nil => rfl
  | cons m ms ih =>
    unfold enrolWhere
    split_ifs
    · rw [one]
      dsimp only
      rw [ih]
    · dsimp only
      rw [ih]

/-- A step does the same. -/
theorem perform_rebased (s : Step H D) :
    (r.rebased id shift).perform (s.rebased id shift) = (r.perform s).rebased id shift := by
  cases s with
  | register ms => exact congrArg Prod.snd (enrolWhere_rebased r id shift _ ms)
  | setDispatcher d => rfl
  | trigger a now =>
    show ((r.rebased id shift).judge a now).2 = _
    rw [judge_rebased]
    show _ = (r.judge a now).2.rebased id shift
    rcases r.judge a now with ⟨_ | _, _⟩ <;> rfl
  | finish a => exact congrArg Prod.snd (release_rebased r id shift a none)
  | finishInvocation i => exact congrArg Prod.snd (release_rebased r id shift i.action (some i.epoch))
  | shutdown => rfl

/-- A step issues the same invocation, of the later epoch. -/
theorem accepted?_rebased (s : Step H D) :
    (r.rebased id shift).accepted? (s.rebased id shift) =
      (r.accepted? s).map (·.rebased id shift) := by
  cases s with
  | trigger a now =>
    show ((r.rebased id shift).judge a now).1.invocation? = _
    rw [judge_rebased]
    show _ = ((r.judge a now).1.invocation?).map _
    rcases r.judge a now with ⟨_ | _, _⟩ <;> rfl
  | _ => rfl

/-- A client learns the same from a step. -/
theorem reply_rebased (s : Step H D) :
    (r.rebased id shift).reply (s.rebased id shift) = r.reply s := by
  cases s with
  | register ms =>
    exact congrArg (fun x => Reply.enrolled (.ofEnrolments x.1)) (enrolWhere_rebased r id shift _ ms)
  | setDispatcher d => rfl
  | trigger a now =>
    show Reply.judged _ _ _ = Reply.judged _ _ _
    rw [judge_rebased]
    rcases r.judge a now with ⟨_ | ⟨_, _ | _⟩, _⟩ <;> rfl
  | finish a => exact congrArg (fun x => Reply.released x.1) (release_rebased r id shift a none)
  | finishInvocation i =>
    exact congrArg (fun x => Reply.released x.1) (release_rebased r id shift i.action (some i.epoch))
  | shutdown => rfl

end

/-! ## The capacity of an empty table -/

/-- Mappings that are offered leave the room of an empty table as it was. -/
theorem initialCapacity_enrolWhere (r : Registry H D) (keep : Action → Bool)
    (ms : List (Mapping H)) : (r.enrolWhere keep ms).2.initialCapacity = r.initialCapacity := by
  induction ms generalizing r with
  | nil => rfl
  | cons m ms ih =>
    unfold enrolWhere
    refine (ih _).trans ?_
    unfold enrol
    split_ifs <;> rfl

/-- No step changes how much room an empty table has. -/
theorem initialCapacity_perform (r : Registry H D) (s : Step H D) :
    (r.perform s).initialCapacity = r.initialCapacity := by
  cases s with
  | register ms => exact initialCapacity_enrolWhere r _ ms
  | setDispatcher d => rfl
  | trigger a now =>
    obtain ⟨es, owner, h⟩ := r.trigger_eq a now
    rw [h]
  | finish a =>
    obtain ⟨es, owner, h⟩ := r.release_eq a none
    exact (congrArg Registry.initialCapacity h :)
  | finishInvocation i =>
    obtain ⟨es, owner, h⟩ := r.release_eq i.action (some i.epoch)
    exact (congrArg Registry.initialCapacity h :)
  | shutdown => rfl

/-- No run changes how much room an empty table has. -/
theorem initialCapacity_run (r : Registry H D) (steps : List (Step H D)) :
    (r.run steps).initialCapacity = r.initialCapacity := by
  induction steps generalizing r with
  | nil => rfl
  | cons s steps ih => exact (ih _).trans (initialCapacity_perform r s)

/-! ## Eras -/

/-- A registry from a certain moment on, with the invocations that its clients know. -/
structure Era (H D : Type) where
  /-- The registry. -/
  registry : Registry H D
  /-- The invocations that were issued before the moment, in order. -/
  earlier : List (Invocation H) := []
  /-- The invocations that were issued since, in order. -/
  issued : List (Invocation H) := []

/-- What a client does in an era. It knows an invocation by its place among those that were issued
since the moment or among those of before. -/
inductive Call (H D : Type)
  /-- Offer mappings. -/
  | register (ms : List (Mapping H))
  /-- Set the dispatcher. -/
  | setDispatcher (d : D)
  /-- Request an action, at a time on the clock. -/
  | trigger (a : Action) (now : Nat)
  /-- Finish an action by its identifier. -/
  | finish (a : Action)
  /-- Finish an invocation that was issued since. -/
  | finishIssued (place : Nat)
  /-- Finish an invocation that was issued before. -/
  | finishEarlier (place : Nat)
  /-- Empty the table. -/
  | shutdown

/-- Whether a call is about what was issued since the moment. -/
def Call.isCurrent : Call H D → Bool
  | .finishEarlier _ => false
  | _ => true

namespace Era

variable (e : Era H D)

/-- The step that a call is; there is none for an invocation that does not exist. -/
def step? : Call H D → Option (Step H D)
  | .register ms => some (.register ms)
  | .setDispatcher d => some (.setDispatcher d)
  | .trigger a now => some (.trigger a now)
  | .finish a => some (.finish a)
  | .finishIssued place => e.issued[place]?.map .finishInvocation
  | .finishEarlier place => e.earlier[place]?.map .finishInvocation
  | .shutdown => some .shutdown

/-- The era after a step. -/
def take (s : Step H D) : Era H D :=
  { e with
    registry := e.registry.perform s
    issued := e.issued ++ (e.registry.accepted? s).toList }

/-- The era after a call. -/
def perform (c : Call H D) : Era H D := (e.step? c).elim e e.take

/-- The era after the calls of a list. -/
def after (calls : List (Call H D)) : Era H D := calls.foldl perform e

/-- What the clients learn from the calls of a list, those about earlier invocations apart. -/
def replies (e : Era H D) : List (Call H D) → List (Option (Reply H D))
  | [] => []
  | c :: calls =>
    (if c.isCurrent then [(e.step? c).map e.registry.reply] else []) ++ (e.perform c).replies calls

/-- The era with another registry number, a later epoch and other invocations of before. -/
def rebased (id shift : Nat) (earlier : List (Invocation H)) : Era H D :=
  ⟨e.registry.rebased id shift, earlier, e.issued.map (·.rebased id shift)⟩

/-- Every earlier invocation is of an epoch that is over. -/
def Outlives : Prop := ∀ i ∈ e.earlier, i.epoch < e.registry.epoch

variable {e}

/-- A client learns the reply to its call first. -/
theorem replies_cons {c : Call H D} (hc : c.isCurrent = true) (calls : List (Call H D)) :
    e.replies (c :: calls) = (e.step? c).map e.registry.reply :: (e.perform c).replies calls := by
  rw [replies, if_pos hc]
  rfl

/-- Of a call about earlier invocations nothing is learnt. -/
theorem replies_cons_of_earlier {c : Call H D} (hc : ¬ c.isCurrent = true)
    (calls : List (Call H D)) : e.replies (c :: calls) = (e.perform c).replies calls := by
  rw [replies, if_neg hc]
  rfl

/-- The calls of a list are made one after the other. -/
theorem after_cons (c : Call H D) (calls : List (Call H D)) :
    e.after (c :: calls) = (e.perform c).after calls := rfl

/-! ### Another number and a later epoch -/

section

variable (id shift : Nat) (earlier : List (Invocation H))

/-- A call that is not about earlier invocations is the same step in a later epoch. -/
theorem step?_rebased {c : Call H D} (hc : c.isCurrent = true) :
    (e.rebased id shift earlier).step? c = (e.step? c).map (·.rebased id shift) := by
  cases c with
  | finishIssued place =>
    show ((e.issued.map _)[place]?).map _ = (e.issued[place]?.map _).map _
    rw [List.getElem?_map, Option.map_map, Option.map_map]
    rfl
  | finishEarlier place => simp [Call.isCurrent] at hc
  | _ => rfl

/-- A step leads to the same era, in a later epoch. -/
theorem take_rebased (s : Step H D) :
    (e.rebased id shift earlier).take (s.rebased id shift) =
      (e.take s).rebased id shift earlier := by
  have hissued : ((e.registry.rebased id shift).accepted? (s.rebased id shift)).toList =
      (e.registry.accepted? s).toList.map (·.rebased id shift) := by
    rw [accepted?_rebased]
    cases e.registry.accepted? s <;> rfl
  simp [take, rebased, Registry.perform_rebased, hissued]

/-- A call that is not about earlier invocations leads to the same era, in a later epoch. -/
theorem perform_rebased {c : Call H D} (hc : c.isCurrent = true) :
    (e.rebased id shift earlier).perform c = (e.perform c).rebased id shift earlier := by
  unfold perform
  rw [step?_rebased id shift earlier hc]
  cases e.step? c with
  | none => rfl
  | some s => exact take_rebased id shift earlier s

/-- Calls that are not about earlier invocations have the same effect and the same replies in a
later epoch. -/
theorem replies_and_after_rebased {calls : List (Call H D)}
    (hcalls : ∀ c ∈ calls, c.isCurrent = true) :
    (e.rebased id shift earlier).replies calls = e.replies calls ∧
      (e.rebased id shift earlier).after calls = (e.after calls).rebased id shift earlier := by
  -- The induction is on the calls, over every era: what was issued along the way is of the later
  -- epoch too.
  induction calls generalizing e with
  | nil => exact ⟨rfl, rfl⟩
  | cons c calls ih =>
    obtain ⟨hc, hrest⟩ := List.forall_mem_cons.1 hcalls
    obtain ⟨hreplies, hafter⟩ := ih (e := e.perform c) hrest
    have hreply : ((e.rebased id shift earlier).step? c).map
        (e.rebased id shift earlier).registry.reply = (e.step? c).map e.registry.reply := by
      rw [step?_rebased id shift earlier hc, Option.map_map]
      exact Option.map_congr fun s _ => reply_rebased e.registry id shift s
    rw [replies_cons hc, replies_cons hc, after_cons, after_cons, perform_rebased _ _ _ hc, hreply,
      hreplies]
    exact ⟨rfl, hafter⟩

end

/-! ### Earlier invocations -/

/-- An epoch that is over stays so. -/
theorem Outlives.perform (h : e.Outlives) (c : Call H D) : (e.perform c).Outlives := by
  unfold Era.perform
  cases e.step? c with
  | none => exact h
  | some s =>
    intro i hi
    have hlt : i.epoch < e.registry.epoch := h i hi
    show i.epoch < (e.registry.perform s).epoch
    -- The epoch only grows.
    rcases e.registry.epoch_perform s with ⟨-, hs⟩ | ⟨-, hs⟩ <;> omega

/-- To finish an earlier invocation has no effect. -/
theorem Outlives.perform_of_earlier (h : e.Outlives) {c : Call H D} (hc : ¬ c.isCurrent = true) :
    e.perform c = e := by
  cases c with
  | finishEarlier place =>
    show (e.earlier[place]?.map .finishInvocation).elim e e.take = e
    cases hi : e.earlier[place]? with
    | none => rfl
    | some i =>
      have hne : i.epoch ≠ e.registry.epoch := Nat.ne_of_lt (h i (List.mem_of_getElem? hi))
      simp [take, perform_finishInvocation_of_epoch_ne hne, accepted?]
  | _ => exact absurd rfl hc

/-- Without the calls about earlier invocations everything is the same. -/
theorem Outlives.replies_and_after_filter (h : e.Outlives) (calls : List (Call H D)) :
    e.replies calls = e.replies (calls.filter (·.isCurrent)) ∧
      e.after calls = e.after (calls.filter (·.isCurrent)) := by
  induction calls generalizing e with
  | nil => exact ⟨rfl, rfl⟩
  | cons c calls ih =>
    obtain ⟨hreplies, hafter⟩ := ih (h.perform c)
    by_cases hc : c.isCurrent = true
    · rw [List.filter_cons_of_pos hc, replies_cons hc, replies_cons hc, after_cons, after_cons]
      exact ⟨congrArg _ hreplies, hafter⟩
    · rw [h.perform_of_earlier hc] at hreplies hafter
      rw [List.filter_cons_of_neg hc, replies_cons_of_earlier hc, after_cons,
        h.perform_of_earlier hc]
      exact ⟨hreplies, hafter⟩

end Era

/-- An invocation that has been issued is not of a later epoch than the registry. -/
theorem epoch_le_of_mem_accepted {r : Registry H D} {steps : List (Step H D)} {i : Invocation H}
    (hi : i ∈ r.accepted steps) : i.epoch ≤ (r.run steps).epoch := by
  induction steps generalizing r with
  | nil => simp [accepted] at hi
  | cons s steps ih =>
    rw [accepted, List.mem_append, Option.mem_toList] at hi
    rcases hi with hi | hi
    · obtain ⟨a, now, e, rfl, -, -, rfl⟩ := accepted?_eq_some_iff.1 hi
      show r.epoch ≤ _
      rw [run_cons, ← epoch_trigger r a now]
      exact (epoch_run _ steps).1
    · exact ih hi

/-- Emptying the table is a complete reset. Whatever clients have done with a registry before, and
whatever they do after its table has been emptied, each of them learns the same from each call, and
the registry answers the same to everything that can be asked of it, as if the calls were made of a
registry that has just been made with the same capacity; and the finishing of invocations that were
issued before, at any points and any number of times, changes none of this. -/
theorem shutdown_starts_afresh (id id' capacity : Nat) (before : List (Step H D))
    (calls : List (Call H D)) :
    let r : Registry H D := (new id capacity).run before
    let emptied : Era H D := { registry := r.shutdown, earlier := (new id capacity).accepted before }
    let fresh : Era H D := { registry := new id' capacity }
    let current := calls.filter (·.isCurrent)
    emptied.replies calls = fresh.replies current ∧
      (emptied.after calls).registry.answers = (fresh.after current).registry.answers := by
  intro r emptied fresh current
  -- A shutdown ends the epoch of all that has been issued, and leaves what is a new registry but
  -- for its number and epoch.
  have houtlives : emptied.Outlives := fun i hi => Nat.lt_succ_of_le (epoch_le_of_mem_accepted hi)
  have hrebased : emptied = fresh.rebased r.id (r.epoch + 1) emptied.earlier := by
    have := shutdown_eq_rebased (r := r) (initialCapacity_run (new id capacity) before) id'
    simp [emptied, fresh, Era.rebased, this]
  have hcurrent : ∀ c ∈ current, c.isCurrent = true := fun c hc => (List.mem_filter.1 hc).2
  obtain ⟨hreplies, hafter⟩ := houtlives.replies_and_after_filter calls
  obtain ⟨hreplies', hafter'⟩ :=
    fresh.replies_and_after_rebased r.id (r.epoch + 1) emptied.earlier hcurrent
  rw [← hrebased] at hreplies' hafter'
  refine ⟨hreplies.trans hreplies', ?_⟩
  rw [hafter, hafter']
  rfl

end Registry

end Switchboard
