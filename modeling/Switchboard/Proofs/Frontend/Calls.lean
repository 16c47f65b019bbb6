import Switchboard.Proofs.Frontend.Commands

/-!
# Resets under way

A handler runs with the lock of the registry released, and while it does any number of clients use
the registry. The handler of a reset finishes its invocation before it returns. That finish need not
be the one that ends the run: a client may have finished the action by its identifier before, so that
a second run has begun meanwhile, or the table may have been emptied, and then it counts for nothing.
`Calls` is a registry together with the handlers that have not returned yet, and `Calls.Attended.run`
says that this does no harm: a reset that is busy has a handler among those that has yet to finish, in
the epoch of the table.
-/

namespace Switchboard

/-- The actions that reset the machine or a drive. -/
def Action.resets : List Action :=
  [.resetSoft, .resetHard, .driveReset8, .driveReset9, .driveReset10, .driveReset11]

/-- Whether a handler finishes its invocation, which is then the last thing that it does. -/
def Handler.finishesItself {T : Type} : Handler T → Bool
  | .command c => c.finishes
  | .script .. => false

namespace Domain

/-- The commands that finish their invocations are those for the resets. -/
theorem finishes_iff :
    ∀ m ∈ allMappings, m.handler.finishes = true ↔ m.action ∈ Action.resets := by decide

/-- Resets block, and need neither the UI thread nor the dialog slot. -/
theorem flags_of_reset :
    ∀ m ∈ allMappings, m.action ∈ Action.resets → m.flags = Flags.none.blocking := by decide

end Domain

namespace Mapping

variable {T : Type}

/-- A subsystem contributes the mapping. -/
def IsContributed (m : Mapping (Handler T)) : Prop :=
  ∃ d ∈ Domain.all, m ∈ FrontendM.domainMappings d

/-- If the mapping is for a reset, it blocks and does no more, and its handler finishes itself. -/
def ResetsFinish (m : Mapping (Handler T)) : Prop :=
  m.action ∈ Action.resets → m.flags = Flags.none.blocking ∧ m.handler.finishesItself = true

/-- What a subsystem contributes is a command of its own. -/
theorem IsContributed.exists_command {m : Mapping (Handler T)} (h : m.IsContributed) :
    ∃ m' ∈ Domain.allMappings,
      m = { action := m'.action, handler := .command m'.handler, flags := m'.flags } := by
  obtain ⟨d, hd, hm⟩ := h
  obtain ⟨m', hm', rfl⟩ := List.mem_map.1 hm
  exact ⟨m', List.mem_flatMap.2 ⟨d, hd, hm'⟩, rfl⟩

/-- What the subsystems contribute for a reset finishes its run. -/
theorem IsContributed.resetsFinish {m : Mapping (Handler T)} (h : m.IsContributed) :
    m.ResetsFinish := by
  obtain ⟨m', hm', rfl⟩ := h.exists_command
  exact fun ha => ⟨Domain.flags_of_reset m' hm' ha, (Domain.finishes_iff m' hm').2 ha⟩

end Mapping

/-- The invocation whose handler is to be run at once, if the request is accepted for that. -/
def Admission.called? {H D : Type} : Admission H D → Option (Invocation H)
  | .accepted i none => some i
  | _ => none

namespace Registry

variable {H D : Type} {r : Registry H D}

/-- The invocation whose handler is to be run at once after a step. -/
def called? (r : Registry H D) : Step H D → Option (Invocation H)
  | .trigger a now => (r.judge a now).1.called?
  | _ => none

/-- What is to be run at once is made of the entry of an action. -/
theorem exists_issue_of_called? {x : Step H D} {i : Invocation H} (hi : r.called? x = some i) :
    ∃ a e, r.lookup? a = some e ∧ r.issue e = i := by
  cases x with
  | trigger a now =>
    replace hi : (r.judge a now).1.called? = some i := hi
    cases hv : (r.judge a now).1 with
    | refused why => simp [hv, Admission.called?] at hi
    | accepted j route =>
      have hj : r.accepted? (.trigger a now) = some j := by
        rw [accepted?, hv]
        rfl
      obtain ⟨e, he, -, hissue⟩ := accepted?_trigger_iff.1 hj
      -- A request that goes to the UI thread calls nothing at once.
      cases route with
      | none =>
        rw [hv] at hi
        exact ⟨a, e, he, hissue.trans (Option.some.inj hi)⟩
      | some d => simp [hv, Admission.called?] at hi
  | _ => simp [called?] at hi

/-- A request for an action that only blocks is accepted unless the action is busy, and its handler
is to be run at once. -/
theorem judge_of_blocking {a : Action} {e : Entry H} (he : r.lookup? a = some e)
    (hflags : e.flags = Flags.none.blocking) (now : Nat) :
    (r.judge a now).1 = if e.busy then .refused .busy else .accepted (r.issue e) none := by
  have hrefusal : r.refusal? e = if e.busy then some .busy else none := by
    rw [refusal?, hflags]
    cases e.busy <;> rfl
  have hui : e.flags.needsUiThread = false := by rw [hflags]; rfl
  unfold judge
  rw [he]
  dsimp only
  rw [hrefusal]
  -- A reset neither opens a dialog nor needs the UI thread, so nothing else can refuse it.
  cases e.busy with
  | true => rfl
  | false =>
    rw [if_neg Bool.false_ne_true, if_neg Bool.false_ne_true]
    dsimp only
    rw [hui]
    rfl

end Registry

/-! ## Handlers that have not returned -/

/-- A registry, and the invocations whose handlers were to be run at once and have not returned
yet. -/
structure Calls (T D : Type) where
  /-- The registry. -/
  registry : Registry (Handler T) D
  /-- The invocations, the oldest first. -/
  running : List (Invocation (Handler T)) := []

/-- One thing that happens. -/
inductive Calls.Move (T D : Type)
  /-- Someone uses the registry: a client, or a handler that is running. -/
  | step (x : Registry.Step (Handler T) D)
  /-- The handler at a place returns. One that finishes itself finishes its invocation now. -/
  | leave (place : Nat)

namespace Calls

variable {T D : Type}

/-- The mappings that are offered with a move. -/
def Move.offered : Move T D → List (Mapping (Handler T))
  | .step (.register ms) => ms
  | _ => []

/-- What there is after a move. A move that cannot be made changes nothing. -/
def perform (c : Calls T D) : Move T D → Calls T D
  | .step x =>
    { registry := c.registry.perform x, running := c.running ++ (c.registry.called? x).toList }
  | .leave place =>
    match c.running[place]? with
    | none => c
    | some i =>
      { registry := if i.handler.finishesItself then c.registry.perform (.finishInvocation i)
          else c.registry
        running := c.running.eraseIdx place }

/-- What there is after the moves of a list. -/
def run (c : Calls T D) (moves : List (Move T D)) : Calls T D := moves.foldl perform c

/-- Without moves the calls stay as they are. -/
@[simp] theorem run_nil (c : Calls T D) : c.run [] = c := rfl

/-- The first move is made first. -/
@[simp] theorem run_cons (c : Calls T D) (x : Move T D) (moves : List (Move T D)) :
    c.run (x :: moves) = (c.perform x).run moves := rfl

/-- Every reset that is busy is attended to: a handler for it that has not returned will finish it,
in the epoch of the table. -/
structure Attended (c : Calls T D) : Prop where
  /-- The table is well-formed. -/
  wellFormed : c.registry.WellFormed
  /-- Resets are bound to handlers that finish themselves. -/
  bound : c.registry.BindsOnly Mapping.ResetsFinish
  /-- The handlers of resets that are running finish themselves. -/
  running : ∀ i ∈ c.running, i.action ∈ Action.resets → i.handler.finishesItself = true
  /-- Where a reset is busy, a handler of it is running. -/
  busy : ∀ a ∈ Action.resets, c.registry.isBusy a = true →
    ∃ i ∈ c.running, i.action = a ∧ i.epoch = c.registry.epoch

namespace Attended

variable {c : Calls T D}

/-- A client or a handler may use the registry as it likes, if it binds resets to nothing else. -/
theorem step (h : c.Attended) {x : Registry.Step (Handler T) D}
    (hx : ∀ ms, x = .register ms → ∀ m ∈ ms, m.ResetsFinish) :
    (c.perform (.step x)).Attended where
  wellFormed := h.wellFormed.perform x
  bound := h.bound.perform h.wellFormed hx
  running := by
    intro i hi ha
    rcases List.mem_append.1 hi with hi | hi
    · exact h.running i hi ha
    · -- The handler is that of the entry.
      obtain ⟨b, e, he, rfl⟩ := Registry.exists_issue_of_called? (Option.mem_toList.1 hi)
      have haction : e.action = b := h.wellFormed.action_of_lookup? he
      have hbound : Mapping.ResetsFinish ⟨b, e.handler, e.flags⟩ := h.bound b e he
      exact (hbound (haction ▸ ha)).2
  busy := by
    intro a ha hbusy
    obtain ⟨hepoch, ⟨now, e, rfl, he, hr⟩ | ⟨hbefore, -⟩⟩ := h.wellFormed.isBusy_perform hbusy
    · -- The request has been accepted, and its handler is to be run at once.
      have hflags : e.flags = Flags.none.blocking := (h.bound a e he ha).1
      have hidle : e.busy = false := by
        refine ((c.registry.refusal?_eq_none_iff e).1 hr).1 ?_
        rw [hflags]
        rfl
      have hcalled : c.registry.called? (.trigger a now) = some (c.registry.issue e) := by
        rw [Registry.called?, Registry.judge_of_blocking he hflags, hidle]
        rfl
      refine ⟨c.registry.issue e, List.mem_append_right _ ?_,
        h.wellFormed.action_of_lookup? he, hepoch.symm⟩
      exact Option.mem_toList.2 hcalled
    · obtain ⟨i, hi, haction, hstamp⟩ := h.busy a ha hbefore
      exact ⟨i, List.mem_append_left _ hi, haction, hstamp.trans hepoch.symm⟩

/-- Every reset is attended to without a handler that returns, if in the registry that it leaves each
reset that is busy was busy before, and was so by another handler. -/
theorem without (h : c.Attended) {place : Nat} {i : Invocation (Handler T)}
    (hi : c.running[place]? = some i) {r : Registry (Handler T) D} (hwell : r.WellFormed)
    (hbound : r.BindsOnly Mapping.ResetsFinish)
    (hbusy : ∀ a ∈ Action.resets, r.isBusy a = true → c.registry.isBusy a = true ∧
      r.epoch = c.registry.epoch ∧ ¬ (i.action = a ∧ i.epoch = c.registry.epoch)) :
    Attended { registry := r, running := c.running.eraseIdx place } where
  wellFormed := hwell
  bound := hbound
  running j hj ha := h.running j (List.mem_of_mem_eraseIdx hj) ha
  busy := by
    intro a ha hnow
    obtain ⟨hbefore, hepoch, hother⟩ := hbusy a ha hnow
    obtain ⟨j, hj, haction, hstamp⟩ := h.busy a ha hbefore
    obtain ⟨n, hn⟩ := List.mem_iff_getElem?.1 hj
    -- The handler of a reset that is still busy is not the one that returns, so it stands
    -- elsewhere.
    have hne : n ≠ place := by
      rintro rfl
      obtain rfl := Option.some.inj (hi.symm.trans hn)
      exact hother ⟨haction, hstamp⟩
    exact ⟨j, List.mem_eraseIdx_iff_getElem?.2 ⟨n, hne, hn⟩, haction, hstamp.trans hepoch.symm⟩

/-- A handler may return. If the finish of a reset counts, the reset is not busy afterwards; if it
does not, the handler was not the one that the busy reset had. -/
theorem leave (h : c.Attended) (place : Nat) : (c.perform (.leave place)).Attended := by
  cases hi : c.running[place]? with
  | none =>
    have hsame : c.perform (.leave place) = c := by simp only [perform, hi]
    rw [hsame]
    exact h
  | some i =>
    cases hself : i.handler.finishesItself with
    | false =>
      have hleft : c.perform (.leave place) =
          { registry := c.registry, running := c.running.eraseIdx place } := by
        simp [perform, hi, hself]
      rw [hleft]
      refine h.without hi h.wellFormed h.bound fun a ha hbusy => ⟨hbusy, rfl, ?_⟩
      -- The handler of a reset finishes itself, so this is none.
      rintro ⟨rfl, -⟩
      rw [h.running i (List.mem_of_getElem? hi) ha] at hself
      contradiction
    | true =>
      have hleft : c.perform (.leave place) =
          { registry := c.registry.perform (.finishInvocation i)
            running := c.running.eraseIdx place } := by
        simp [perform, hi, hself]
      have hbound : (c.registry.perform (.finishInvocation i)).BindsOnly Mapping.ResetsFinish :=
        h.bound.perform h.wellFormed (by simp)
      rw [hleft]
      refine h.without hi (h.wellFormed.perform _) hbound fun a ha hbusy => ?_
      obtain ⟨hepoch, ⟨now, e, hx, -⟩ | ⟨hbefore, hends⟩⟩ := h.wellFormed.isBusy_perform hbusy
      · contradiction
      · exact ⟨hbefore, hepoch, hends⟩

/-- Every move leaves the resets attended to. -/
theorem perform (h : c.Attended) {x : Move T D} (hx : ∀ m ∈ x.offered, m.ResetsFinish) :
    (c.perform x).Attended := by
  cases x with
  | step x =>
    refine h.step fun ms hms => ?_
    rw [hms] at hx
    exact hx
  | leave place => exact h.leave place

/-- So does every run of moves. -/
theorem run (h : c.Attended) {moves : List (Move T D)}
    (hmoves : ∀ x ∈ moves, ∀ m ∈ x.offered, m.ResetsFinish) : (c.run moves).Attended := by
  induction moves generalizing c with
  | nil => exact h
  | cons x moves ih =>
    obtain ⟨hx, hrest⟩ := List.forall_mem_cons.1 hmoves
    exact ih (h.perform hx) hrest

/-- Where no handler for a reset is running, the reset is not busy. -/
theorem isBusy_of_returned (h : c.Attended) {a : Action} (ha : a ∈ Action.resets)
    (hreturned : ∀ i ∈ c.running, i.action ≠ a) : c.registry.isBusy a = false := by
  refine Bool.eq_false_iff.2 fun hbusy => ?_
  obtain ⟨i, hi, haction, -⟩ := h.busy a ha hbusy
  exact hreturned i hi haction

/-- Where no handler for a reset is running, a request for it is dropped only for want of a
mapping. -/
theorem judge_of_returned (h : c.Attended) {a : Action} (ha : a ∈ Action.resets)
    (hreturned : ∀ i ∈ c.running, i.action ≠ a) (now : Nat) :
    (c.registry.lookup? a = none ∧ (c.registry.judge a now).1 = .refused .unknown) ∨
      ∃ e, c.registry.lookup? a = some e ∧
        (c.registry.judge a now).1 = .accepted (c.registry.issue e) none := by
  cases he : c.registry.lookup? a with
  | none => exact .inl ⟨rfl, by rw [Registry.judge, he]⟩
  | some e =>
    have hflags : e.flags = Flags.none.blocking := (h.bound a e he ha).1
    have hidle : e.busy = false := by
      have hbusy := h.isBusy_of_returned ha hreturned
      rwa [Registry.isBusy, he] at hbusy
    refine .inr ⟨e, rfl, ?_⟩
    rw [Registry.judge_of_blocking he hflags, hidle]
    rfl

/-- If there is but one handler that is run, from the request for it to its return, every reset is
attended to afterwards. -/
theorem call {r : Registry (Handler T) D} (h : Attended { registry := r })
    {x : Registry.Step (Handler T) D} (hx : ∀ ms, x ≠ .register ms) {i : Invocation (Handler T)}
    (hi : r.called? x = some i) :
    Attended { registry := if i.handler.finishesItself
      then (r.perform x).perform (.finishInvocation i) else r.perform x } := by
  -- The call is two moves: the request, and the return of the one handler that is running.
  have hrun : ({ registry := r } : Calls T D).run [.step x, .leave 0] =
      { registry := if i.handler.finishesItself then (r.perform x).perform (.finishInvocation i)
          else r.perform x } := by
    simp [Calls.perform, hi]
  have hoffered : ∀ m ∈ (Move.step x).offered, m.ResetsFinish := by
    cases x with
    | register ms => exact absurd rfl (hx ms)
    | _ => exact List.forall_mem_nil _
  rw [← hrun]
  exact h.run (List.forall_mem_cons.2 ⟨hoffered, List.forall_mem_singleton.2 (List.forall_mem_nil _)⟩)

end Attended

/-- In a new registry nothing is busy. -/
theorem attended_new (id capacity : Nat) :
    Attended { registry := (.new id capacity : Registry (Handler T) D) } where
  wellFormed := Registry.wellFormed_new id capacity
  bound a e he := by simp at he
  running := List.forall_mem_nil _
  busy a _ hbusy := by simp [Registry.isBusy] at hbusy

end Calls

end Switchboard
