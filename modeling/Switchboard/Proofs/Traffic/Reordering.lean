import Switchboard.Proofs.Registry.Reordering
import Switchboard.Proofs.Traffic.Run

/-!
# The order of registration does not show

What clients, handlers and drains do may depend on everything that they were told and could see so
far. As long as they do not look at the order in which actions and stalled runs are listed, nothing
that they see tells in which order, or in how many calls, the mappings of different actions were
added (`registration_order_is_hidden`).

What can be seen after a move is a `View`; who acts is given by a function from what was seen so far
to the next move, and `watch` is what is seen when the moves are chosen by it.
-/

namespace Switchboard.Traffic

open scoped List

variable {H : Type}

/-- What the party that makes a move is told, if it takes a step with the registry. -/
def Move.told (s : Traffic H) : Move H → Option (Registry.Reply H Dispatcher)
  | .client x => if s.permits x then some (s.registry.reply x) else none
  | _ => none

/-- The traffic without its registry. -/
def bare (s : Traffic H) : Traffic H := { s with registry := .new 0 0 }

/-- What can be seen of the traffic after a move. -/
structure View (H : Type) where
  /-- What was told in reply to the move. -/
  told : Option (Registry.Reply H Dispatcher) := none
  /-- What the registry answers, without the order of its lists. -/
  answers : Registry.Unordered
  /-- The queues with their drains, and all that is on the way or was run. -/
  rest : Traffic H

/-- What can be seen of the traffic. -/
def view (s : Traffic H) (told : Option (Registry.Reply H Dispatcher) := none) : View H :=
  ⟨told, s.registry.unordered, s.bare⟩

/-- What is seen of the traffic while as many moves as are given are made, each of them chosen by
what was seen before it. -/
def watch (choose : List (View H) → Move H) : Nat → List (View H) → Traffic H → List (View H)
  | 0, seen, _ => seen
  | n + 1, seen, s =>
    let m := choose seen
    watch choose n (seen ++ [(s.perform m).view (m.told s)]) (s.perform m)

/-- The calls in which lists of mappings are added. -/
def registrations (mss : List (List (Mapping H))) : List (Move H) :=
  mss.map fun ms => .client (.register ms)

/-! ## Traffic around another registry -/

/-- The traffic around another registry. -/
def around (s : Traffic H) (r : Registry H Dispatcher) : Traffic H := { s with registry := r }

section

variable (s : Traffic H) (r : Registry H Dispatcher)

/-- The traffic is around its own registry. -/
theorem around_self : s.around s.registry = s := rfl

/-- Handing over does not look at the registry. -/
theorem deliver_around (t : Ticket H) : (s.around r).deliver t = (s.deliver t).around r := by
  unfold deliver
  rw [show (s.around r).desks = s.desks from rfl]
  cases t.route with
  | queue q =>
    dsimp only
    cases s.desks[q]?.bind (·.enter? t) <;> rfl
  | _ => rfl

/-- Neither does taking what is to be handed over. -/
theorem handOver_around (place : Nat) :
    (s.around r).handOver place = (s.handOver place).around r := by
  unfold handOver
  rw [show (s.around r).carried = s.carried from rfl]
  cases s.carried[place]? with
  | none => rfl
  | some t => exact deliver_around { s with carried := s.carried.eraseIdx place } r t

/-- To follow a judgement does not look at the registry. -/
theorem judged_around (v : Admission H Dispatcher) :
    (s.around r).judged v = (s.judged v).around r := by
  rcases v with why | ⟨i, _ | d⟩ <;> rfl

/-- A request is judged by the registry, and all else follows from the judgement. -/
theorem client_trigger_around (a : Action) (now : Nat) :
    (s.around r).client (.trigger a now) = (s.judged (r.judge a now).1).around (r.judge a now).2 :=
  judged_around s _ _

/-- A step that is no request concerns the registry only. -/
theorem client_around {x : Registry.Step H Dispatcher} (hx : ∀ a now, x ≠ .trigger a now) :
    (s.around r).client x = s.around (if s.permits x then r.perform x else r) := by
  have hpermits : (s.around r).client x =
      if s.permits x then s.around (r.perform x) else s.around r := by
    cases x with
    | trigger a now => exact absurd rfl (hx a now)
    | _ => rfl
  rw [hpermits]
  split_ifs <;> rfl

end

/-! ## Traffic around reordered registries -/

/-- Two states of the traffic that differ in the order of the registry's table. -/
structure Reordered (s s' : Traffic H) : Prop where
  /-- The registries are reordered. -/
  registry : s.registry.Reordered s'.registry
  /-- All else is the same. -/
  rest : s' = s.around s'.registry

variable {s s' : Traffic H} {r r' : Registry H Dispatcher}

/-- The same traffic around reordered registries is reordered. -/
theorem reordered_around (hr : r.Reordered r') (s : Traffic H) :
    (s.around r).Reordered (s.around r') :=
  ⟨hr, rfl⟩

/-- A move around reordered registries leaves them reordered, and all else the same. -/
theorem perform_around (hr : r.Reordered r') (s : Traffic H) (m : Move H) :
    ((s.around r).perform m).Reordered ((s.around r').perform m) := by
  cases m with
  | client x =>
    show ((s.around r).client x).Reordered ((s.around r').client x)
    -- Only a request sends something on its way, and it is judged the same by both registries.
    by_cases hx : ∃ a now, x = .trigger a now
    · obtain ⟨a, now, rfl⟩ := hx
      obtain ⟨hv, hnext⟩ := hr.judge a now
      rw [client_trigger_around, client_trigger_around, hv]
      exact reordered_around hnext _
    · have hx : ∀ a now, x ≠ .trigger a now := fun a now heq => hx ⟨a, now, heq⟩
      rw [client_around s r hx, client_around s r' hx]
      refine reordered_around ?_ s
      split_ifs
      · exact hr.perform x
      · exact hr
  | handOver place =>
    show ((s.around r).handOver place).Reordered ((s.around r').handOver place)
    rw [handOver_around, handOver_around]
    exact reordered_around hr _
  | endDrain q =>
    -- A drain may end when no sender is left, and the registries have the same dispatcher.
    have hconnected : (s.around r).isConnected q = (s.around r').isConnected q := by
      show (_ || r.dispatcher == _ || _) = (_ || r'.dispatcher == _ || _)
      rw [hr.dispatcher_eq]
      rfl
    show ((s.around r).changeDesk q _).Reordered ((s.around r').changeDesk q _)
    rw [hconnected]
    exact reordered_around hr (s.changeDesk q _)
  | _ => exact ⟨hr, rfl⟩

/-- A move leaves the traffic around reordered registries the same. -/
theorem Reordered.perform (h : s.Reordered s') (m : Move H) :
    (s.perform m).Reordered (s'.perform m) := by
  have haround := perform_around h.registry s m
  rwa [around_self, ← h.rest] at haround

/-- Reordered traffic looks the same. -/
theorem Reordered.view (h : s.Reordered s') (told : Option (Registry.Reply H Dispatcher)) :
    s.view told = s'.view told := by
  have hrest : s'.bare = s.bare := (congrArg bare h.rest :)
  unfold Traffic.view
  rw [h.registry.unordered_eq, hrest]

/-- The party that makes a move is told the same. -/
theorem Reordered.told (h : s.Reordered s') (m : Move H) : m.told s = m.told s' := by
  cases m with
  | client x =>
    have hpermits : s'.permits x = s.permits x := (congrArg (permits · x) h.rest :)
    show (if s.permits x then some (s.registry.reply x) else none) = if s'.permits x then _ else _
    rw [hpermits, h.registry.reply x]
  | _ => rfl

/-- Whatever is seen of the traffic around one registry is seen around the other. -/
theorem Reordered.watch (h : s.Reordered s') (choose : List (View H) → Move H) (n : Nat)
    (seen : List (View H)) : s.watch choose n seen = s'.watch choose n seen := by
  induction n generalizing s s' seen with
  | zero => rfl
  | succ n ih =>
    have hnext := h.perform (choose seen)
    unfold Traffic.watch
    dsimp only
    rw [h.told, hnext.view]
    exact ih hnext _

/-! ## Registration in another order -/

/-- Calls that add mappings change the registry only. -/
theorem run_registrations (s : Traffic H) (mss : List (List (Mapping H))) :
    s.run (registrations mss) = { s with registry := (s.registry.registerEach mss).2 } := by
  induction mss generalizing s with
  | nil => rfl
  | cons ms mss ih => exact ih { s with registry := (s.registry.register ms).2 }

/-- The order in which subsystems add their mappings does not show. Take any state that the traffic
can get into, and two ways to add some mappings, of which no two are for one real action, in some
order and in some number of calls. Of each way as many are added, and the same actions are turned
down, in some order. And whatever moves clients, handlers and drains make from there on, each move
chosen in any way by what was seen so far, they see the same: what each of them is told, what the
registry answers, up to the order of its lists, and what becomes of the queues and of all that was
issued. -/
theorem registration_order_is_hidden (id capacity : Nat) (moves : List (Move H))
    {mss mss' : List (List (Mapping H))} (hperm : mss.flatten ~ mss'.flatten)
    (hdistinct : Mapping.Distinct mss.flatten) :
    let s := (start id capacity).run moves
    let t := s.run (registrations mss)
    let t' := s.run (registrations mss')
    (s.registry.registerEach mss).1.added = (s.registry.registerEach mss').1.added ∧
      (s.registry.registerEach mss).1.rejected ~ (s.registry.registerEach mss').1.rejected ∧
      ∀ choose n, t.watch choose n [t.view] = t'.watch choose n [t'.view] := by
  intro s t t'
  have hwell : s.registry.WellFormed := by
    obtain ⟨steps, hsteps⟩ := registry_run (start id capacity) moves
    rw [hsteps]
    exact (Registry.wellFormed_new id capacity).run steps
  obtain ⟨hreport, hregistry⟩ := Registry.registerEach_perm hwell hperm hdistinct
  have hreordered : t.Reordered t' := by
    show (s.run (registrations mss)).Reordered (s.run (registrations mss'))
    rw [run_registrations, run_registrations]
    exact ⟨hregistry, rfl⟩
  refine ⟨hreport.added, hreport.rejected, fun choose n => ?_⟩
  rw [hreordered.view]
  exact hreordered.watch choose n _

/-- A soft reset is in flight. -/
def resetting : List (Move Unit) :=
  [.client (.register [Registry.softReset]), .client (.trigger .resetSoft 0)]

/-- A mapping for the reserved identifier, one for the soft reset, and two dialogs. -/
def inOneCall : List (List (Mapping Unit)) :=
  [[⟨.reserved, (), {}⟩, Registry.softReset, Registry.dialogFor .quit,
    Registry.dialogFor .aboutDialog]]

/-- The same the other way round. -/
def inTwoCalls : List (List (Mapping Unit)) :=
  [[Registry.dialogFor .aboutDialog, Registry.dialogFor .quit],
    [Registry.softReset, ⟨.reserved, (), {}⟩]]

/-- The two dialogs are added in either order, and nothing but the list of actions shows it. -/
theorem dialogs_are_added_in_either_order :
    let s := (start 0 1).run resetting
    let t := s.run (registrations inOneCall)
    let t' := s.run (registrations inTwoCalls)
    Mapping.Distinct inOneCall.flatten ∧ inOneCall.flatten ~ inTwoCalls.flatten ∧
      s.registry.isBusy .resetSoft = true ∧
      (s.registry.registerEach inOneCall).1 = ⟨2, [.reserved, .resetSoft]⟩ ∧
      (s.registry.registerEach inTwoCalls).1.added = 2 ∧
      t.registry.registered = [.resetSoft, .quit, .aboutDialog] ∧
      t'.registry.registered = [.resetSoft, .aboutDialog, .quit] ∧
      ∀ choose n, t.watch choose n [t.view] = t'.watch choose n [t'.view] := by
  intro s t t'
  have hdistinct : Mapping.Distinct inOneCall.flatten := by
    unfold Mapping.Distinct
    decide
  have hperm : inOneCall.flatten ~ inTwoCalls.flatten := (List.reverse_perm _).symm
  obtain ⟨hadded, -, hwatch⟩ := registration_order_is_hidden 0 1 resetting hperm hdistinct
  have hreport : (s.registry.registerEach inOneCall).1 = ⟨2, [.reserved, .resetSoft]⟩ := by decide
  exact ⟨hdistinct, hperm, by decide, hreport, hadded.symm.trans (congrArg Report.added hreport),
    by decide, by decide, hwatch⟩

end Switchboard.Traffic
