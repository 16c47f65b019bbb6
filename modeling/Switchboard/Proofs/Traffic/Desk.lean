import Mathlib.Data.List.Perm.Basic
import Switchboard.Frontend.State

/-!
# A queue and who drains it

A desk is a queue to the UI thread together with the drain that is going on, if one is, and a
record of what was put in and of what became of it. A drain takes an invocation out, runs its
handler to the end and goes on; it is over when nothing waits, or, for a drain that waits for more,
when besides no sender is left. The receiving end is dropped only between drains.

`Desk.Sound` is the account that a desk gives: what was put in, in order, is what was run, what is
running, what waits and what was discarded, and the answers of the drains count what was run.
-/

namespace Switchboard

/-- An accepted request on its way to the UI thread. -/
structure Ticket (H : Type) where
  /-- The place of the request among those that were accepted and need the UI thread. -/
  number : Nat
  /-- The dispatcher of the registry when it accepted the request. -/
  route : Dispatcher
  /-- What the registry issued. -/
  invocation : Invocation H

/-- How a drain begins and ends. -/
inductive DrainKind
  /-- It takes what is there and does not wait. -/
  | pending
  /-- It waits for some time for a first invocation, and then takes what is there. -/
  | timeout
  /-- It waits for more until the last sender is gone. -/
  | blocking
  deriving DecidableEq

/-- What a drain answers when it ends, given how many handlers it ran and whether a sender is left:
their number, but nothing if it waited for a first one that no one could send any more. -/
def DrainKind.answer (kind : DrainKind) (ran : Nat) (connected : Bool) : Option Nat :=
  if kind = .timeout ∧ ran = 0 ∧ connected = false then none else some ran

/-- A drain answers nothing only if it ran nothing. -/
theorem DrainKind.getD_answer (kind : DrainKind) (ran : Nat) (connected : Bool) :
    (kind.answer ran connected).getD 0 = ran := by
  unfold DrainKind.answer
  split_ifs with h
  · exact h.2.1.symm
  · rfl

/-- A drain that is going on. -/
structure Drain (H : Type) where
  /-- How it began and is to end. -/
  kind : DrainKind
  /-- How many handlers it has run to their end. -/
  ran : Nat := 0
  /-- What it has taken out and is running. -/
  running : Option (Ticket H) := none

/-- A queue with its drains and its history. -/
structure Desk (H : Type) where
  /-- The queue. -/
  queue : UiQueue (Ticket H) := {}
  /-- The drain that is going on. -/
  drain : Option (Drain H) := none
  /-- Everything that was put in, in order. -/
  entered : List (Ticket H) := []
  /-- Everything that was run to its end, in order. -/
  ran : List (Ticket H) := []
  /-- Everything that was thrown away with the receiving end, in order. -/
  discarded : List (Ticket H) := []
  /-- What the drains that ended have answered. -/
  answers : List (Option Nat) := []

namespace Desk

variable {H : Type}

/-- What is running. -/
def running (d : Desk H) : Option (Ticket H) := d.drain.bind (·.running)

/-- How many handlers the drains count: those that ended by their answers, and the one that is going
on. -/
def count (d : Desk H) : Nat :=
  d.answers.foldl (fun n answer => n + answer.getD 0) 0 + (d.drain.map (·.ran)).getD 0

/-- A ticket is put in; gives nothing if no one will take it out. -/
def enter? (d : Desk H) (t : Ticket H) : Option (Desk H) :=
  (d.queue.send? t).map fun queue => { d with queue, entered := d.entered ++ [t] }

/-- A drain begins, if the receiving end is there and no drain is going on. -/
def beginDrain (kind : DrainKind) (d : Desk H) : Desk H :=
  if d.queue.receiving = true ∧ d.drain.isNone = true then { d with drain := some { kind } } else d

/-- The drain takes out what has waited longest and begins to run it, if it is running nothing. -/
def take (d : Desk H) : Desk H :=
  match d.drain, d.queue.receive? with
  | some ⟨kind, ran, none⟩, some (t, queue) => { d with queue, drain := some ⟨kind, ran, some t⟩ }
  | _, _ => d

/-- The handler that is running returns. -/
def handlerReturns (d : Desk H) : Desk H :=
  match d.drain with
  | some ⟨kind, ran, some t⟩ => { d with drain := some ⟨kind, ran + 1, none⟩, ran := d.ran ++ [t] }
  | _ => d

/-- The drain ends, if it may, given whether a sender is left. -/
def endDrain (connected : Bool) (d : Desk H) : Desk H :=
  match d.drain with
  | some drain =>
    if drain.running.isNone = true ∧ d.queue.waiting.isEmpty = true ∧
        (drain.kind = .blocking → connected = false) then
      { d with drain := none, answers := d.answers ++ [drain.kind.answer drain.ran connected] }
    else d
  | none => d

/-- The receiving end is dropped, if no drain is going on. -/
def dropReceiver (d : Desk H) : Desk H :=
  if d.drain.isNone = true then
    { d with queue := d.queue.dropReceiver, discarded := d.discarded ++ d.queue.waiting }
  else d

/-- The sender of the queue's maker is dropped. -/
def dropSender (d : Desk H) : Desk H := { d with queue := d.queue.dropSender }

/-- The account that a desk gives of what was put in. -/
structure Sound (q : Nat) (d : Desk H) : Prop where
  /-- Only what was meant for this queue was put in. -/
  routed : ∀ t ∈ d.entered, t.route = .queue q
  /-- What was run, is running, waits and was discarded is what was put in, in the same order. -/
  order : d.entered = d.ran ++ d.running.toList ++ d.queue.waiting ++ d.discarded
  /-- Nothing is discarded while the receiving end is there. -/
  kept : d.queue.receiving = true → d.discarded = []
  /-- Nothing waits and no drain goes on without the receiving end. -/
  closed : d.queue.receiving = false → d.queue.waiting = [] ∧ d.drain = none
  /-- The drains count what was run. -/
  counted : d.ran.length = d.count

/-- A desk has gone on from another: its history has grown, and a receiving end that was dropped
does not come back. -/
structure GoesOn (d d' : Desk H) : Prop where
  /-- What was put in stays so. -/
  entered : d.entered <+: d'.entered
  /-- What was run stays so. -/
  ran : d.ran <+: d'.ran
  /-- What was discarded stays so. -/
  discarded : d.discarded <+: d'.discarded
  /-- A receiving end that was dropped does not come back. -/
  dropped : d.queue.receiving = false → d'.queue.receiving = false
  /-- A sender that was dropped does not come back. -/
  released : d.queue.senderHeld = false → d'.queue.senderHeld = false

/-- A desk goes on from itself. -/
theorem GoesOn.refl (d : Desk H) : d.GoesOn d :=
  ⟨List.prefix_rfl, List.prefix_rfl, List.prefix_rfl, fun h => h, fun h => h⟩

/-- To go on and on is to go on. -/
theorem GoesOn.trans {d d' d'' : Desk H} (h : d.GoesOn d') (h' : d'.GoesOn d'') : d.GoesOn d'' :=
  ⟨h.entered.trans h'.entered, h.ran.trans h'.ran, h.discarded.trans h'.discarded,
    fun hd => h'.dropped (h.dropped hd), fun hs => h'.released (h.released hs)⟩

/-- A new desk has nothing to account for. -/
theorem sound_new (q : Nat) : ({} : Desk H).Sound q where
  routed := by simp
  order := rfl
  kept := fun _ => rfl
  closed := by simp
  counted := rfl

/-! ## Putting in -/

/-- A ticket can be put in as long as the receiving end is there, and it is put behind those that
wait. -/
theorem enter?_eq_some_iff {d d' : Desk H} {t : Ticket H} :
    d.enter? t = some d' ↔ d.queue.receiving = true ∧
      { d with queue := { d.queue with waiting := d.queue.waiting ++ [t] },
               entered := d.entered ++ [t] } = d' := by
  obtain ⟨⟨waiting, receiving, senderHeld⟩, drain, entered, ran, discarded, answers⟩ := d
  cases receiving <;> simp [enter?, UiQueue.send?]

/-- It comes back if the receiving end was dropped. -/
theorem enter?_eq_none_iff {d : Desk H} {t : Ticket H} :
    d.enter? t = none ↔ d.queue.receiving = false := by
  unfold enter? UiQueue.send?
  cases d.queue.receiving <;> simp

variable {d d' : Desk H} {q : Nat}

/-- What is put in goes behind everything that waits. -/
theorem Sound.enter? (h : d.Sound q) {t : Ticket H} (ht : t.route = .queue q)
    (he : d.enter? t = some d') : d'.Sound q := by
  obtain ⟨hr, rfl⟩ := enter?_eq_some_iff.1 he
  have hk := h.kept hr
  refine ⟨?_, ?_, fun _ => hk, fun hc => ?_, h.counted⟩
  · intro u hu
    rcases List.mem_append.1 hu with hu | hu
    · exact h.routed u hu
    · rw [List.mem_singleton.1 hu, ht]
  -- While the receiving end is there nothing was discarded, so the ticket goes last.
  · have horder := h.order
    rw [hk, List.append_nil] at horder
    show d.entered ++ [t] = d.ran ++ d.running.toList ++ (d.queue.waiting ++ [t]) ++ d.discarded
    rw [hk, horder]
    simp
  · simp [hr] at hc

/-- Nothing that was put in before is lost. -/
theorem GoesOn.enter? {t : Ticket H} (he : d.enter? t = some d') : d.GoesOn d' := by
  obtain ⟨-, rfl⟩ := enter?_eq_some_iff.1 he
  exact ⟨List.prefix_append _ _, List.prefix_rfl, List.prefix_rfl, fun h => h, fun h => h⟩

/-! ## Draining -/

/-- A drain that begins has run nothing and is running nothing. -/
theorem Sound.beginDrain (h : d.Sound q) (kind : DrainKind) : (d.beginDrain kind).Sound q := by
  unfold Desk.beginDrain
  split_ifs with hc
  · obtain ⟨hr, hn⟩ := hc
    have hn := Option.isNone_iff_eq_none.1 hn
    refine ⟨h.routed, ?_, h.kept, fun hcl => ?_, ?_⟩
    · have := h.order
      simpa [running, hn] using this
    · simp [hr] at hcl
    · have := h.counted
      simpa [count, hn] using this
  · exact h

/-- A drain that begins forgets nothing. -/
theorem GoesOn.beginDrain (d : Desk H) (kind : DrainKind) : d.GoesOn (d.beginDrain kind) := by
  unfold Desk.beginDrain
  split_ifs
  · exact ⟨List.prefix_rfl, List.prefix_rfl, List.prefix_rfl, fun h => h, fun h => h⟩
  · exact .refl d

/-- A drain that begins puts nothing in. -/
@[simp] theorem entered_beginDrain (d : Desk H) (kind : DrainKind) :
    (d.beginDrain kind).entered = d.entered := by
  unfold Desk.beginDrain
  split_ifs <;> rfl

/-- What a drain takes out is what has waited longest. -/
theorem take_cases (d : Desk H) : d.take = d ∨ ∃ kind ran t rest,
    d.drain = some ⟨kind, ran, none⟩ ∧ d.queue.waiting = t :: rest ∧
      d.take = { d with queue := { d.queue with waiting := rest },
                        drain := some ⟨kind, ran, some t⟩ } := by
  obtain ⟨queue, drain, entered, ran, discarded, answers⟩ := d
  obtain ⟨waiting, receiving, senderHeld⟩ := queue
  rcases drain with _ | ⟨kind, n, _ | u⟩
  · exact .inl rfl
  · cases waiting with
    | nil => exact .inl rfl
    | cons t rest => exact .inr ⟨kind, n, t, rest, rfl, rfl, rfl⟩
  · exact .inl rfl

/-- What is taken out of the queue is running then, and keeps its place. -/
theorem Sound.take (h : d.Sound q) : d.take.Sound q := by
  rcases take_cases d with heq | ⟨kind, n, t, rest, hd, hw, heq⟩
  · rw [heq]; exact h
  · rw [heq]
    refine ⟨h.routed, ?_, h.kept, fun hcl => ?_, ?_⟩
    · have := h.order
      simpa [running, hd, hw] using this
    · have := (h.closed hcl).1
      simp [hw] at this
    · have := h.counted
      simpa [count, hd] using this

/-- What is taken out is not forgotten. -/
theorem GoesOn.take (d : Desk H) : d.GoesOn d.take := by
  rcases take_cases d with heq | ⟨kind, n, t, rest, -, -, heq⟩
  · rw [heq]; exact .refl d
  · rw [heq]; exact ⟨List.prefix_rfl, List.prefix_rfl, List.prefix_rfl, fun h => h, fun h => h⟩

/-- To take out is not to put in. -/
@[simp] theorem entered_take (d : Desk H) : d.take.entered = d.entered := by
  rcases take_cases d with heq | ⟨kind, n, t, rest, -, -, heq⟩ <;> rw [heq]

/-- What returns is what is running. -/
theorem handlerReturns_cases (d : Desk H) : d.handlerReturns = d ∨ ∃ kind ran t,
    d.drain = some ⟨kind, ran, some t⟩ ∧
      d.handlerReturns = { d with drain := some ⟨kind, ran + 1, none⟩, ran := d.ran ++ [t] } := by
  obtain ⟨queue, drain, entered, ran, discarded, answers⟩ := d
  rcases drain with _ | ⟨kind, n, _ | t⟩
  · exact .inl rfl
  · exact .inl rfl
  · exact .inr ⟨kind, n, t, rfl, rfl⟩

/-- What was running has been run, and the drain counts it. -/
theorem Sound.handlerReturns (h : d.Sound q) : d.handlerReturns.Sound q := by
  rcases handlerReturns_cases d with heq | ⟨kind, n, t, hd, heq⟩
  · rw [heq]; exact h
  · rw [heq]
    refine ⟨h.routed, ?_, h.kept, fun hcl => ?_, ?_⟩
    · have := h.order
      simpa [running, hd] using this
    · have := (h.closed hcl).2
      simp [hd] at this
    · have := h.counted
      simp [count, hd] at this
      simp [count, this]
      omega

/-- What has returned is noted behind what has before. -/
theorem GoesOn.handlerReturns (d : Desk H) : d.GoesOn d.handlerReturns := by
  rcases handlerReturns_cases d with heq | ⟨kind, n, t, -, heq⟩
  · rw [heq]; exact .refl d
  · rw [heq]
    exact ⟨List.prefix_rfl, List.prefix_append _ _, List.prefix_rfl, fun h => h, fun h => h⟩

/-- A handler that returns puts nothing in. -/
@[simp] theorem entered_handlerReturns (d : Desk H) : d.handlerReturns.entered = d.entered := by
  rcases handlerReturns_cases d with heq | ⟨kind, n, t, -, heq⟩ <;> rw [heq]

/-- A drain ends with nothing running and nothing waiting. -/
theorem endDrain_cases (d : Desk H) (connected : Bool) : d.endDrain connected = d ∨ ∃ drain,
    d.drain = some drain ∧ drain.running = none ∧ d.queue.waiting = [] ∧
      (drain.kind = .blocking → connected = false) ∧
      d.endDrain connected =
        { d with drain := none, answers := d.answers ++ [drain.kind.answer drain.ran connected] } := by
  unfold endDrain
  cases hd : d.drain with
  | none => exact .inl rfl
  | some drain =>
    dsimp only
    split_ifs with hc
    · obtain ⟨hn, hw, hb⟩ := hc
      exact .inr ⟨drain, rfl, Option.isNone_iff_eq_none.1 hn, List.isEmpty_iff.1 hw, hb, rfl⟩
    · exact .inl rfl

/-- The answer of a drain that ends stands for its count. -/
theorem Sound.endDrain (h : d.Sound q) (connected : Bool) : (d.endDrain connected).Sound q := by
  rcases endDrain_cases d connected with heq | ⟨drain, hd, hn, -, -, heq⟩
  · rw [heq]; exact h
  · rw [heq]
    refine ⟨h.routed, ?_, h.kept, fun hcl => ⟨(h.closed hcl).1, rfl⟩, ?_⟩
    · have := h.order
      simpa [running, hd, hn] using this
    -- The sum of the answers grows by what the drain had counted, also if its answer is that
    -- nothing was there.
    · have := h.counted
      simp [count, hd] at this
      simp [count, this, DrainKind.getD_answer]

/-- A drain that ends forgets nothing. -/
theorem GoesOn.endDrain (d : Desk H) (connected : Bool) : d.GoesOn (d.endDrain connected) := by
  rcases endDrain_cases d connected with heq | ⟨drain, -, -, -, -, heq⟩
  · rw [heq]; exact .refl d
  · rw [heq]; exact ⟨List.prefix_rfl, List.prefix_rfl, List.prefix_rfl, fun h => h, fun h => h⟩

/-- A drain that ends puts nothing in. -/
@[simp] theorem entered_endDrain (d : Desk H) (connected : Bool) :
    (d.endDrain connected).entered = d.entered := by
  rcases endDrain_cases d connected with heq | ⟨drain, -, -, -, -, heq⟩ <;> rw [heq]

/-! ## Dropping the ends -/

/-- With the receiving end goes what waits. -/
theorem Sound.dropReceiver (h : d.Sound q) : d.dropReceiver.Sound q := by
  unfold Desk.dropReceiver
  split_ifs with hn
  · have hn := Option.isNone_iff_eq_none.1 hn
    refine ⟨h.routed, ?_, fun hr => ?_, fun _ => ⟨rfl, hn⟩, h.counted⟩
    · -- What waits becomes what was discarded, and there was nothing of one of the two.
      cases hr : d.queue.receiving with
      | true =>
        have := h.order
        simpa [running, hn, UiQueue.dropReceiver, h.kept hr] using this
      | false =>
        have := h.order
        simpa [running, hn, UiQueue.dropReceiver, (h.closed hr).1] using this
    · simp [UiQueue.dropReceiver] at hr
  · exact h

/-- What is thrown away is noted, and the receiving end is gone from then on. -/
theorem GoesOn.dropReceiver (d : Desk H) : d.GoesOn d.dropReceiver := by
  unfold Desk.dropReceiver
  split_ifs
  · exact ⟨List.prefix_rfl, List.prefix_rfl, List.prefix_append _ _, fun _ => rfl, fun h => h⟩
  · exact .refl d

/-- To drop the receiving end puts nothing in. -/
@[simp] theorem entered_dropReceiver (d : Desk H) : d.dropReceiver.entered = d.entered := by
  unfold Desk.dropReceiver
  split_ifs <;> rfl

/-- To drop the sender puts nothing in. -/
@[simp] theorem entered_dropSender (d : Desk H) : d.dropSender.entered = d.entered := rfl

/-- To drop the sender touches nothing that was put in. -/
theorem Sound.dropSender (h : d.Sound q) : d.dropSender.Sound q :=
  ⟨h.routed, h.order, h.kept, h.closed, h.counted⟩

/-- A sender that is dropped is gone from then on. -/
theorem GoesOn.dropSender (d : Desk H) : d.GoesOn d.dropSender :=
  ⟨List.prefix_rfl, List.prefix_rfl, List.prefix_rfl, fun h => h, fun _ => rfl⟩

end Desk

end Switchboard
