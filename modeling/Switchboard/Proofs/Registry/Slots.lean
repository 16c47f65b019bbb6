import Switchboard.Proofs.Registry.FirstMapping
import Switchboard.Proofs.Registry.Reordering

/-!
# Slots

The entry of an action stands in a slot of the table, and the index knows in which. Whoever follows
the index to a slot that is not there has gone wrong, and `lookup?` and `updateEntry` pass over that.
`readSlot` and `writeSlot` do not: they fail at such a slot, and so do the request, the release and
the questions that are made of them. In a well-formed registry none of them ever fails, and they give
what the operations of the registry give (`WellFormed.judgeBySlot_eq`, `WellFormed.releaseBySlot_eq`).

The entries stand in the order in which their actions were first added. Which that is can be read off
the mappings that were offered since the table was last emptied (`registered_run`).
-/

namespace Switchboard

/-- The real actions of some mappings, each where it comes first. -/
def Mapping.firstActions {H : Type} (ms : List (Mapping H)) : List Action :=
  ((ms.map (·.action)).filter (·.isReal)).eraseDups

/-- One more mapping adds its action behind the others, if it is real and not among them. -/
theorem Mapping.firstActions_concat {H : Type} (ms : List (Mapping H)) (m : Mapping H) :
    firstActions (ms ++ [m]) =
      if m.action.isReal = true ∧ m.action ∉ firstActions ms then firstActions ms ++ [m.action]
      else firstActions ms := by
  unfold firstActions
  rw [List.map_append, List.filter_append, List.eraseDups_append]
  simp only [List.mem_eraseDups]
  generalize (ms.map (·.action)).filter (·.isReal) = as
  cases hreal : m.action.isReal with
  | false => simp [hreal, List.removeAll]
  | true =>
    by_cases hm : m.action ∈ as
    · simp [hreal, hm, List.removeAll]
    · simp [hreal, hm, List.removeAll, List.eraseDups_cons]

namespace Registry

variable {H D : Type}

/-! ## Going by slots -/

/-- Reads the entry of an action in the slot that the index gives, and fails if there is no such
slot. -/
def readSlot (r : Registry H D) (a : Action) : Except Nat (Option (Entry H)) :=
  match r.index.get a with
  | none => .ok none
  | some i => if h : i < r.entries.length then .ok (some r.entries[i]) else .error i

/-- Changes the entry of an action in the slot that the index gives, and fails if there is no such
slot. -/
def writeSlot (r : Registry H D) (a : Action) (f : Entry H → Entry H) :
    Except Nat (Registry H D) :=
  match r.index.get a with
  | none => .ok r
  | some i =>
    if i < r.entries.length then .ok { r with entries := r.entries.modify i f } else .error i

/-- Judges a request, and fails if a slot is not there. -/
def judgeBySlot (r : Registry H D) (a : Action) (now : Nat) :
    Except Nat (Admission H D × Registry H D) := do
  match ← r.readSlot a with
  | none => return (.refused .unknown, r)
  | some e =>
    match r.refusal? e with
    | some why => return (.refused why, r)
    | none =>
      let begun ← r.writeSlot a (·.start now)
      return (.accepted (r.issue e) (if e.flags.needsUiThread then r.dispatcher else none),
        { begun with dialogOwner := if e.flags.dialog then some a else r.dialogOwner })

/-- Ends the run of an action, and fails if a slot is not there. -/
def releaseBySlot (r : Registry H D) (a : Action) (epoch : Option Nat) :
    Except Nat (Release × Registry H D) := do
  if epoch.any (· != r.epoch) then return (.stale, r)
  match ← r.readSlot a with
  | none => return (.unknown, r)
  | some e =>
    let ownsSlot := e.flags.dialog && r.dialogOwner == some a
    let ended ← r.writeSlot a (·.stop)
    return (if e.busy || ownsSlot then .finished else .idle,
      { ended with dialogOwner := if ownsSlot then none else r.dialogOwner })

namespace WellFormed

variable {r : Registry H D}

/-- The index gives the place of an action's entry, which is in the table. -/
theorem index_eq_some_iff (h : r.WellFormed) {a : Action} {i : Nat} :
    r.index.get a = some i ↔ ∃ hi : i < r.entries.length, r.entries[i].action = a := by
  rw [h.index_iff, Option.map_eq_some_iff]
  constructor
  · rintro ⟨e, he, rfl⟩
    obtain ⟨hi, rfl⟩ := List.getElem?_eq_some_iff.1 he
    exact ⟨hi, rfl⟩
  · rintro ⟨hi, rfl⟩
    exact ⟨_, List.getElem?_eq_getElem hi, rfl⟩

/-- To read an entry by its place never goes out of bounds, and reads the entry of the action. -/
theorem readSlot_eq (h : r.WellFormed) (a : Action) : r.readSlot a = .ok (r.lookup? a) := by
  unfold readSlot lookup?
  cases hindex : r.index.get a with
  | none => rfl
  | some i =>
    obtain ⟨hi, -⟩ := h.index_eq_some_iff.1 hindex
    simp [hi]

/-- To change an entry by its place never goes out of bounds, and changes the entry of the action.
-/
theorem writeSlot_eq (h : r.WellFormed) (a : Action) (f : Entry H → Entry H) :
    r.writeSlot a f = .ok (r.updateEntry a f) := by
  unfold writeSlot Registry.updateEntry
  cases hindex : r.index.get a with
  | none => rfl
  | some i =>
    obtain ⟨hi, -⟩ := h.index_eq_some_iff.1 hindex
    simp [hi]

/-- A request goes out of bounds nowhere. -/
theorem judgeBySlot_eq (h : r.WellFormed) (a : Action) (now : Nat) :
    r.judgeBySlot a now = .ok (r.judge a now) := by
  unfold judgeBySlot judge
  rw [h.readSlot_eq, h.writeSlot_eq]
  cases he : r.lookup? a with
  | none => rfl
  | some e =>
    have ha := h.action_of_lookup? he
    cases hr : r.refusal? e with
    | some why => simp [bind, Except.bind, hr]; rfl
    | none => simp [bind, Except.bind, hr, Registry.begin, ha]; rfl

/-- A release goes out of bounds nowhere. -/
theorem releaseBySlot_eq (h : r.WellFormed) (a : Action) (epoch : Option Nat) :
    r.releaseBySlot a epoch = .ok (r.release a epoch) := by
  unfold releaseBySlot Registry.release
  rw [h.readSlot_eq, h.writeSlot_eq]
  split
  · rfl
  · cases r.lookup? a <;> rfl

/-- The actions that have a mapping are those that are listed. -/
theorem mem_registered_iff (h : r.WellFormed) {a : Action} :
    a ∈ r.registered ↔ r.isRegistered a = true := by
  rw [h.isRegistered_eq, Option.isSome_iff_exists]
  unfold registered
  simp only [List.mem_map, h.lookup?_eq_some_iff]

/-- Only real actions have an entry. -/
theorem registered_subset (h : r.WellFormed) : r.registered ⊆ Action.all.filter (·.isReal) := by
  intro a ha
  obtain ⟨e, he, rfl⟩ := List.mem_map.1 ha
  exact List.mem_filter.2 ⟨Action.mem_all _, h.real e he⟩

/-- There are fewer entries than identifiers, since the reserved one has none. -/
theorem size_lt_count (h : r.WellFormed) : r.size < Action.count := by
  have hle := h.nodup_registered.length_le_of_subset h.registered_subset
  rw [registered, List.length_map] at hle
  exact Nat.lt_of_le_of_lt hle (by decide)

/-- The number of entries is the number of actions that have one. -/
theorem size_eq (h : r.WellFormed) : r.size = (Action.all.filter r.isRegistered).length := by
  -- Both are lists of the same actions, each once.
  have hperm : r.registered.Perm (Action.all.filter r.isRegistered) := by
    rw [List.perm_ext_iff_of_nodup h.nodup_registered (Action.nodup_all.filter _)]
    intro a
    rw [h.mem_registered_iff, List.mem_filter, and_iff_right (Action.mem_all a)]
  rw [← hperm.length_eq, registered, List.length_map]
  rfl

end WellFormed

/-! ## The order of the entries -/

variable {r : Registry H D}

/-- A change of one entry that leaves it bound to its action leaves the order of the actions. -/
theorem registered_updateEntry (r : Registry H D) (a : Action) {f : Entry H → Entry H}
    (hf : ∀ e, (f e).action = e.action) : (r.updateEntry a f).registered = r.registered := by
  unfold updateEntry registered
  split
  · rfl
  · rename_i i hi
    refine List.ext_getElem? fun j => ?_
    simp only [List.getElem?_map, List.getElem?_modify]
    split <;> simp [Function.comp_def, hf]

/-- A release leaves the order of the actions. -/
theorem registered_release (r : Registry H D) (a : Action) (epoch : Option Nat) :
    (r.release a epoch).2.registered = r.registered := by
  unfold release
  split
  · rfl
  · split
    · rfl
    · exact r.registered_updateEntry a fun _ => rfl

/-- A request leaves the order of the actions. -/
theorem registered_trigger (r : Registry H D) (a : Action) (now : Nat) :
    (r.perform (.trigger a now)).registered = r.registered := by
  cases hi : r.accepted? (.trigger a now) with
  | none => rw [perform_trigger_of_not_accepted hi]
  | some i =>
    obtain ⟨e, he, hr, -⟩ := accepted?_trigger_iff.1 hi
    rw [perform_trigger_of_accepted now he hr]
    exact r.registered_updateEntry e.action fun _ => rfl

/-- A table that lists the actions of some mappings in order does so when one more is offered. -/
theorem WellFormed.registered_enrol (h : r.WellFormed) {ms : List (Mapping H)}
    (hr : r.registered = Mapping.firstActions ms) (m : Mapping H) :
    (r.enrol m).2.registered = Mapping.firstActions (ms ++ [m]) := by
  -- The table takes the mapping in the same case in which the list gets its action.
  have htakes : r.takes m = true ↔ m.action.isReal = true ∧ m.action ∉ Mapping.firstActions ms := by
    rw [takes, Bool.and_eq_true, Bool.not_eq_true', ← Bool.not_eq_true, ← h.mem_registered_iff, hr]
  rw [Mapping.firstActions_concat, enrol_snd]
  by_cases ht : r.takes m = true
  · rw [if_pos ht, if_pos (htakes.1 ht), ← hr]
    exact List.map_append
  · rw [if_neg ht, if_neg (htakes.not.1 ht), hr]

/-- A table that lists the actions of some mappings in order does so when more are offered. -/
theorem WellFormed.registered_register (h : r.WellFormed) {ms : List (Mapping H)}
    (hr : r.registered = Mapping.firstActions ms) (new : List (Mapping H)) :
    (r.register new).2.registered = Mapping.firstActions (ms ++ new) := by
  induction new generalizing r ms with
  | nil => rw [List.append_nil]; exact hr
  | cons m new ih =>
    rw [register_cons, List.append_cons]
    exact ih (h.enrol m) (h.registered_enrol hr m)

/-- What a step does to the order of the actions is what it does to the mappings offered. -/
theorem WellFormed.registered_perform (h : r.WellFormed) {ms : List (Mapping H)}
    (hr : r.registered = Mapping.firstActions ms) (s : Step H D) :
    (r.perform s).registered = Mapping.firstActions (s.onOffer ms) := by
  cases s with
  | register new => exact h.registered_register hr new
  | setDispatcher d => exact hr
  | trigger a now => exact (r.registered_trigger a now).trans hr
  | finish a => exact (r.registered_release a none).trans hr
  | finishInvocation i => exact (r.registered_release i.action (some i.epoch)).trans hr
  | shutdown => rfl

/-- The table lists the actions of the mappings that were offered since it was last emptied, in the
order in which they came first. -/
theorem WellFormed.registered_run (h : r.WellFormed) {ms : List (Mapping H)}
    (hr : r.registered = Mapping.firstActions ms) (steps : List (Step H D)) :
    (r.run steps).registered = Mapping.firstActions (steps.foldl Step.onOffer ms) := by
  induction steps generalizing r ms with
  | nil => exact hr
  | cons s steps ih => exact ih (h.perform s) (h.registered_perform hr s)

/-- The index and the entries are one map, in every state that a new registry can get into. The
index gives a place for an action exactly if the entry there is the action's; no action has two
entries and the reserved one has none, so that there are fewer entries than identifiers; and no
request, no release and no question about an action goes to a slot that is not there. The entries
are as many as the actions that are registered, and list exactly these in the order in which they
were first added since the table was last emptied. -/
theorem index_and_entries_are_one_map (id capacity : Nat) (steps : List (Step H D)) :
    let r : Registry H D := (new id capacity).run steps
    (∀ a i, r.index.get a = some i ↔ ∃ h : i < r.entries.length, r.entries[i].action = a) ∧
      r.registered.Nodup ∧ .reserved ∉ r.registered ∧ r.size ≤ Action.count - 1 ∧
      (∀ a, (∀ now, r.judgeBySlot a now = .ok (r.judge a now)) ∧
        (∀ epoch, r.releaseBySlot a epoch = .ok (r.release a epoch)) ∧
        (r.readSlot a).map (·.any (·.busy)) = .ok (r.isBusy a) ∧
        (r.readSlot a).map (·.map (·.flags)) = .ok (r.flags? a)) ∧
      r.size = (Action.all.filter r.isRegistered).length ∧
      (∀ a, a ∈ r.registered ↔ r.isRegistered a = true) ∧
      r.registered = Mapping.firstActions (offered steps) := by
  intro r
  have h : r.WellFormed := (wellFormed_new id capacity).run steps
  refine ⟨fun a i => h.index_eq_some_iff, h.nodup_registered, fun hmem => ?_,
    Nat.le_pred_of_lt h.size_lt_count, fun a => ⟨h.judgeBySlot_eq a, h.releaseBySlot_eq a, ?_, ?_⟩,
    h.size_eq, fun a => h.mem_registered_iff, (wellFormed_new id capacity).registered_run rfl steps⟩
  -- All that is registered is real, so the reserved identifier is not.
  · simpa [Action.isReal] using h.registered_subset hmem
  · rw [h.readSlot_eq]
    rfl
  · rw [h.readSlot_eq]
    rfl

end Registry

end Switchboard
