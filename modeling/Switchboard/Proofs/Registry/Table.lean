import Switchboard.Registry.Admission
import Switchboard.Registry.Enrolment
import Mathlib.Data.List.Nodup

/-!
# The table of a registry as a map

A registry finds the entry of an action through its index. `WellFormed` says that the index and the
list of entries agree: the index gives the place of an action's entry and of no other. In a
well-formed registry `lookup?` is a map from actions to entries, and each operation is known by what
it does to that map: `lookup?_begin`, `lookup?_release` and `lookup?_enrolWhere` say it for a
request that is accepted, for a release and for a list of mappings. Proofs about registries use
these equations and never open the index.
-/

namespace Switchboard.Registry

variable {H D : Type}

/-- The index and the entries of a registry agree, and the reserved identifier has no entry. -/
structure WellFormed (r : Registry H D) : Prop where
  /-- The index gives the place of the action's entry. -/
  index_iff : ∀ a i, r.index.get a = some i ↔ r.entries[i]?.map (·.action) = some a
  /-- Only real actions are bound. -/
  real : ∀ e ∈ r.entries, e.action.isReal = true

/-- When the run of an action that has to be finished was accepted, if there is such a run. -/
def runningSince? (r : Registry H D) (a : Action) : Option Nat :=
  (r.lookup? a).bind (·.runningSince)

namespace WellFormed

variable {r : Registry H D}

/-- The entry of an action is the one entry in the list that is bound to it. -/
theorem lookup?_eq_some_iff (h : r.WellFormed) {a : Action} {e : Entry H} :
    r.lookup? a = some e ↔ e ∈ r.entries ∧ e.action = a := by
  unfold lookup?
  constructor
  · intro he
    obtain ⟨i, hi, hei⟩ := Option.bind_eq_some_iff.1 he
    have hai := (h.index_iff a i).1 hi
    rw [hei] at hai
    exact ⟨List.mem_of_getElem? hei, Option.some.inj hai⟩
  · rintro ⟨he, rfl⟩
    obtain ⟨i, hi⟩ := List.mem_iff_getElem?.1 he
    have : r.index.get e.action = some i := (h.index_iff _ i).2 (by rw [hi]; rfl)
    rw [this]
    exact hi

/-- The entry of an action is bound to it. -/
theorem action_of_lookup? (h : r.WellFormed) {a : Action} {e : Entry H}
    (he : r.lookup? a = some e) : e.action = a :=
  (h.lookup?_eq_some_iff.1 he).2

/-- The index knows the place of an action exactly when the action has an entry. -/
theorem index_eq_none_iff (h : r.WellFormed) {a : Action} :
    r.index.get a = none ↔ r.lookup? a = none := by
  unfold lookup?
  cases hi : r.index.get a with
  | none => simp
  | some i =>
    have hai := (h.index_iff a i).1 hi
    obtain ⟨e, he, -⟩ := Option.map_eq_some_iff.1 hai
    simp [he]

/-- An action is registered exactly when it has an entry. -/
theorem isRegistered_eq (h : r.WellFormed) (a : Action) :
    r.isRegistered a = (r.lookup? a).isSome := by
  unfold isRegistered
  have := h.index_eq_none_iff (a := a)
  cases hi : r.index.get a <;> cases he : r.lookup? a <;> simp_all

/-- No action is bound twice. -/
theorem nodup_registered (h : r.WellFormed) : r.registered.Nodup := by
  rw [List.nodup_iff_getElem?_ne_getElem?]
  intro i j hij hj heq
  unfold registered at heq hj
  rw [List.length_map] at hj
  rw [List.getElem?_map, List.getElem?_map] at heq
  obtain ⟨e, he⟩ : ∃ e, r.entries[j]? = some e := ⟨_, List.getElem?_eq_getElem hj⟩
  -- The index has one place for the action that both places are bound to.
  have hj' : r.index.get e.action = some j := (h.index_iff _ _).2 (by rw [he]; rfl)
  have hi' : r.index.get e.action = some i := (h.index_iff _ _).2 (by rw [heq, he]; rfl)
  rw [hi'] at hj'
  have := Option.some.inj hj'
  omega

end WellFormed

/-! ## Stalled runs -/

/-- The stalled runs stand in the order of the table, each once. -/
theorem stalled_sublist (r : Registry H D) (threshold now : Nat) :
    ((r.stalled threshold now).map (·.action)).Sublist r.registered := by
  unfold stalled registered
  induction r.entries with
  | nil => exact List.Sublist.slnil
  | cons e es ih =>
    rw [List.filterMap_cons]
    split
    · exact ih.cons _
    · rename_i run hrun
      obtain ⟨since, -, hsince⟩ := Option.bind_eq_some_iff.1 hrun
      split_ifs at hsince
      rw [← Option.some.inj hsince]
      exact ih.cons_cons _

/-- A run is stalled exactly when its action is stamped with a time that is old enough. -/
theorem WellFormed.mem_stalled_iff {r : Registry H D} (h : r.WellFormed) {threshold now : Nat}
    {run : StalledRun} :
    run ∈ r.stalled threshold now ↔ ∃ since, r.runningSince? run.action = some since ∧
      threshold ≤ now - since ∧ run.runningFor = now - since := by
  unfold stalled runningSince?
  simp only [List.mem_filterMap, Option.bind_eq_some_iff]
  constructor
  · rintro ⟨e, he, since, hs, hrun⟩
    split_ifs at hrun with ht
    obtain rfl := Option.some.inj hrun
    exact ⟨since, ⟨e, h.lookup?_eq_some_iff.2 ⟨he, rfl⟩, hs⟩, ht, rfl⟩
  · rintro ⟨since, ⟨e, he, hs⟩, ht, hfor⟩
    obtain ⟨hmem, hact⟩ := h.lookup?_eq_some_iff.1 he
    refine ⟨e, hmem, since, hs, ?_⟩
    rw [if_pos ht, hact, ← hfor]

/-- An action is listed as stalled exactly when its stamp is old enough. -/
theorem WellFormed.action_mem_stalled_iff {r : Registry H D} (h : r.WellFormed)
    {threshold now : Nat} {a : Action} :
    a ∈ (r.stalled threshold now).map (·.action) ↔
      ∃ since, r.runningSince? a = some since ∧ threshold ≤ now - since := by
  rw [List.mem_map]
  constructor
  · rintro ⟨run, hrun, rfl⟩
    obtain ⟨since, hs, ht, -⟩ := h.mem_stalled_iff.1 hrun
    exact ⟨since, hs, ht⟩
  · rintro ⟨since, hs, ht⟩
    exact ⟨⟨a, now - since⟩, h.mem_stalled_iff.2 ⟨since, hs, ht, rfl⟩, rfl⟩

/-! ## A new table, and one that has been emptied -/

/-- A table without entries is well-formed if its index is empty. -/
theorem wellFormed_of_empty {r : Registry H D} (he : r.entries = [])
    (hi : r.index = .replicate none) : r.WellFormed where
  index_iff a i := by simp [he, hi]
  real e h := by simp [he] at h

/-- A new registry is well-formed. -/
theorem wellFormed_new (id capacity : Nat) : (new id capacity : Registry H D).WellFormed :=
  wellFormed_of_empty rfl rfl

/-- A registry that was emptied is well-formed. -/
theorem wellFormed_shutdown (r : Registry H D) : r.shutdown.WellFormed :=
  wellFormed_of_empty rfl rfl

/-- A table without entries has none for any action. -/
@[simp] theorem lookup?_new (id capacity : Nat) (a : Action) :
    (new id capacity : Registry H D).lookup? a = none := by
  simp [Registry.lookup?, new]

/-- No action has an entry after the table was emptied. -/
@[simp] theorem lookup?_shutdown (r : Registry H D) (a : Action) : r.shutdown.lookup? a = none := by
  simp [Registry.lookup?, shutdown]

/-! ## Changing one entry -/

/-- A change of one entry that leaves it bound to its action keeps the table well-formed. -/
theorem WellFormed.updateEntry {r : Registry H D} (h : r.WellFormed) (a : Action)
    {f : Entry H → Entry H} (hf : ∀ e, (f e).action = e.action) :
    (r.updateEntry a f).WellFormed := by
  unfold Registry.updateEntry
  split
  · exact h
  · rename_i i hi
    constructor
    · intro b j
      -- The change shows neither in the index nor in the actions that the places are bound to.
      rw [h.index_iff b j]
      simp only [List.getElem?_modify]
      split <;> simp [hf, Function.comp_def]
    · intro e he
      obtain ⟨j, hj⟩ := List.mem_iff_getElem?.1 he
      simp only [List.getElem?_modify] at hj
      split at hj
      · obtain ⟨e', he', rfl⟩ := Option.map_eq_some_iff.1 hj
        rw [hf]
        exact h.real e' (List.mem_of_getElem? he')
      · obtain ⟨e', he', rfl⟩ := Option.map_eq_some_iff.1 hj
        exact h.real e' (List.mem_of_getElem? he')

/-- A change of the entry of one action changes no other entry. -/
theorem WellFormed.lookup?_updateEntry {r : Registry H D} (h : r.WellFormed) (a b : Action)
    (f : Entry H → Entry H) :
    (r.updateEntry a f).lookup? b = if b = a then (r.lookup? a).map f else r.lookup? b := by
  unfold Registry.updateEntry
  split
  · rename_i hi
    split_ifs with hb
    · rw [hb, h.index_eq_none_iff.1 hi]; rfl
    · rfl
  · rename_i i hi
    unfold lookup?
    split_ifs with hb
    · rw [hb, hi]
      simp [List.getElem?_modify]
    · cases hj : r.index.get b with
      | none => rfl
      | some j =>
        -- The two actions have different places, since an index tells its action.
        have hne : i ≠ j := by
          rintro rfl
          have ha := (h.index_iff a i).1 hi
          rw [(h.index_iff b i).1 hj] at ha
          exact hb (Option.some.inj ha)
        simp [List.getElem?_modify, hne]

/-- A change of one entry changes nothing but the entries. -/
theorem updateEntry_eq (r : Registry H D) (a : Action) (f : Entry H → Entry H) :
    ∃ es, r.updateEntry a f = { r with entries := es } := by
  unfold updateEntry
  split
  · exact ⟨r.entries, rfl⟩
  · exact ⟨_, rfl⟩

/-- The dialog slot has no part in a change of an entry. -/
theorem updateEntry_owner (r : Registry H D) (owner : Option Action) (a : Action)
    (f : Entry H → Entry H) :
    updateEntry { r with dialogOwner := owner } a f =
      { r.updateEntry a f with dialogOwner := owner } := by
  unfold updateEntry
  dsimp only
  cases r.index.get a <;> rfl

/-- Two changes of one entry are one change. -/
theorem updateEntry_updateEntry (r : Registry H D) (a : Action) (f g : Entry H → Entry H) :
    (r.updateEntry a f).updateEntry a g = r.updateEntry a (g ∘ f) := by
  unfold updateEntry
  cases hi : r.index.get a with
  | none => simp [hi]
  | some i => simp [hi, List.modify_modify_eq]

/-- A change that leaves the entry as it is leaves the registry as it is. -/
theorem updateEntry_eq_self {r : Registry H D} {a : Action} {e : Entry H}
    (he : r.lookup? a = some e) {f : Entry H → Entry H} (hf : f e = e) :
    r.updateEntry a f = r := by
  obtain ⟨i, hi, hei⟩ := Option.bind_eq_some_iff.1 he
  have hsame : r.entries.modify i f = r.entries := by
    refine List.ext_getElem? fun j => ?_
    rw [List.getElem?_modify]
    split
    · rename_i hij
      rw [← hij, hei]
      exact congrArg some hf
    · exact id_map _
  unfold updateEntry
  rw [hi]
  dsimp only
  rw [hsame]

/-- To change the entry of an action is to go over the table and change it where it stands. -/
theorem WellFormed.updateEntry_eq_map {r : Registry H D} (h : r.WellFormed) (a : Action)
    (f : Entry H → Entry H) :
    r.updateEntry a f =
      { r with entries := r.entries.map fun e => if e.action = a then f e else e } := by
  unfold Registry.updateEntry
  cases hi : r.index.get a with
  | none =>
    -- No entry is bound to the action.
    have hne : ∀ e ∈ r.entries, e.action ≠ a := by
      intro e he ha
      have hnone := h.index_eq_none_iff.1 hi
      rw [h.lookup?_eq_some_iff.2 ⟨he, ha⟩] at hnone
      simp at hnone
    have hsame : (r.entries.map fun e => if e.action = a then f e else e) = r.entries :=
      (List.map_congr_left fun e he => if_neg (hne e he)).trans (List.map_id _)
    rw [hsame]
  | some i =>
    have hmodify : r.entries.modify i f =
        r.entries.map fun e => if e.action = a then f e else e := by
      refine List.ext_getElem? fun j => ?_
      rw [List.getElem?_modify, List.getElem?_map]
      cases hj : r.entries[j]? with
      | none => rfl
      | some e =>
        -- The entry at the place is the one that is bound to the action.
        have hiff : i = j ↔ e.action = a := by
          have hindex := h.index_iff a j
          rw [hi, hj] at hindex
          simpa using hindex
        simp [hiff]
    dsimp only
    rw [hmodify]

/-! ## Requests and releases -/

/-- A run that starts leaves the registry well-formed. -/
theorem WellFormed.begin {r : Registry H D} (h : r.WellFormed) (e : Entry H) (now : Nat) :
    (r.begin e now).WellFormed := by
  have := h.updateEntry e.action (f := (·.start now)) (fun _ => rfl)
  exact ⟨this.index_iff, this.real⟩

/-- Beginning a run changes the entry of its action and no other. -/
theorem WellFormed.lookup?_begin {r : Registry H D} (h : r.WellFormed) {e : Entry H} {a : Action}
    (he : r.lookup? a = some e) (now : Nat) (b : Action) :
    (r.begin e now).lookup? b = if b = a then some (e.start now) else r.lookup? b := by
  have ha := h.action_of_lookup? he
  have := h.lookup?_updateEntry a b (·.start now)
  rw [he] at this
  subst ha
  exact this

/-- A release leaves it well-formed. -/
theorem WellFormed.release {r : Registry H D} (h : r.WellFormed) (a : Action) (epoch : Option Nat) :
    (r.release a epoch).2.WellFormed := by
  unfold Registry.release
  split
  · exact h
  · split
    · exact h
    · have := h.updateEntry a (f := (·.stop)) (fun _ => rfl)
      exact ⟨this.index_iff, this.real⟩

/-- A release that counts stops the run of its action and no other. -/
theorem WellFormed.lookup?_release {r : Registry H D} (h : r.WellFormed) (a b : Action)
    (epoch : Option Nat) :
    (r.release a epoch).2.lookup? b =
      if b = a ∧ epoch.all (· == r.epoch) then (r.lookup? a).map (·.stop) else r.lookup? b := by
  unfold Registry.release
  -- Without an epoch every release counts; with one it counts if that is the registry's.
  cases epoch with
  | none =>
    simp only [Option.any_none, Bool.false_eq_true, if_false, Option.all_none, and_true]
    split
    · rename_i he
      split_ifs with hb
      · rw [hb, he]; rfl
      · rfl
    · exact h.lookup?_updateEntry a b (·.stop)
  | some n =>
    by_cases hn : n = r.epoch
    · simp only [Option.any_some, hn, bne_self_eq_false, Bool.false_eq_true, if_false,
        Option.all_some, beq_self_eq_true, and_true]
      split
      · rename_i he
        split_ifs with hb
        · rw [hb, he]; rfl
        · rfl
      · exact h.lookup?_updateEntry a b (·.stop)
    · simp [hn]

/-! ## Adding mappings -/

/-- Adding a mapping of an action that has none keeps the table well-formed. -/
theorem WellFormed.push {r : Registry H D} (h : r.WellFormed) (m : Mapping H)
    (hm : r.lookup? m.action = none) (hreal : m.action.isReal = true) : (r.push m).WellFormed := by
  -- No place was taken by the action, so the new one is its only place.
  have hfree : ∀ i : Nat, r.entries[i]?.map (·.action) ≠ some m.action := by
    intro i hi
    rw [← h.index_iff, h.index_eq_none_iff.2 hm] at hi
    simp at hi
  constructor
  · intro a i
    show (r.index.set m.action (some r.entries.length)).get a = some i ↔
      (r.entries ++ [Entry.ofMapping m])[i]?.map (·.action) = some a
    rcases Nat.lt_trichotomy i r.entries.length with hi | hi | hi
    · rw [List.getElem?_append_left hi, ← h.index_iff]
      by_cases ha : m.action = a
      · subst ha
        have := h.index_eq_none_iff.2 hm
        simp only [Action.Table.get_set_self, Option.some.injEq, this]
        constructor <;> intro h' <;> simp_all
      · rw [Action.Table.get_set_ne _ _ ha]
    · subst hi
      by_cases ha : m.action = a
      · simp [ha, Entry.ofMapping]
      · rw [Action.Table.get_set_ne _ _ ha, h.index_iff]
        simp [ha, Entry.ofMapping]
    · rw [List.getElem?_eq_none (by simp; omega)]
      by_cases ha : m.action = a
      · subst ha
        simp only [Action.Table.get_set_self, Option.some.injEq, Option.map_none, reduceCtorEq,
          iff_false]
        omega
      · rw [Action.Table.get_set_ne _ _ ha, h.index_iff, List.getElem?_eq_none (by omega)]
  · intro e he
    rcases List.mem_append.1 he with he | he
    · exact h.real e he
    · rw [List.mem_singleton.1 he]
      exact hreal

/-- A mapping that is added is the entry of its action, and no other entry changes. -/
theorem WellFormed.lookup?_push {r : Registry H D} (h : r.WellFormed) (m : Mapping H)
    (hm : r.lookup? m.action = none) (hreal : m.action.isReal = true) (b : Action) :
    (r.push m).lookup? b = if b = m.action then some (.ofMapping m) else r.lookup? b := by
  have hp := h.push m hm hreal
  have hentries : (r.push m).entries = r.entries ++ [.ofMapping m] := rfl
  split_ifs with hb
  · rw [hp.lookup?_eq_some_iff, hentries, hb]
    exact ⟨by simp, rfl⟩
  · ext e
    -- Of the other actions the entries are those of before, as the new one is none of theirs.
    rw [hp.lookup?_eq_some_iff, h.lookup?_eq_some_iff, hentries, List.mem_append]
    constructor
    · rintro ⟨he | he, ha⟩
      · exact ⟨he, ha⟩
      · rw [List.mem_singleton.1 he] at ha
        exact absurd ha.symm hb
    · rintro ⟨he, ha⟩
      exact ⟨.inl he, ha⟩

/-- A mapping that is offered leaves it well-formed: only a real action without an entry gets one.
-/
theorem WellFormed.enrol {r : Registry H D} (h : r.WellFormed) (m : Mapping H) :
    (r.enrol m).2.WellFormed := by
  unfold Registry.enrol
  split_ifs with h1 h2
  · exact h
  · exact h
  · rw [h.isRegistered_eq] at h2
    exact h.push m (by simpa using h2) (by simpa using h1)

/-- An offered mapping becomes the entry of its action if that is real and has none. -/
theorem WellFormed.lookup?_enrol {r : Registry H D} (h : r.WellFormed) (m : Mapping H)
    (b : Action) :
    (r.enrol m).2.lookup? b =
      (r.lookup? b).or (if m.action.isReal ∧ m.action = b then some (.ofMapping m) else none) := by
  unfold Registry.enrol
  cases hreal : m.action.isReal with
  | false => simp
  | true =>
    simp only [Bool.not_true, Bool.false_eq_true, if_false, true_and]
    rw [h.isRegistered_eq]
    cases hm : r.lookup? m.action with
    | none =>
      simp only [Option.isSome_none, Bool.false_eq_true, if_false]
      rw [h.lookup?_push m hm hreal]
      -- The new entry is found for the action of the mapping, and that had none before.
      by_cases hb : m.action = b
      · rw [if_pos hb.symm, if_pos hb, ← hb, hm, Option.none_or]
      · rw [if_neg (Ne.symm hb), if_neg hb, Option.or_none]
    | some e =>
      simp only [Option.isSome_some, if_true]
      by_cases hb : m.action = b
      · rw [← hb, hm]; rfl
      · rw [if_neg hb, Option.or_none]

/-- Any number of mappings leave it well-formed. -/
theorem WellFormed.enrolWhere {r : Registry H D} (h : r.WellFormed) (keep : Action → Bool)
    (ms : List (Mapping H)) : (r.enrolWhere keep ms).2.WellFormed := by
  induction ms generalizing r with
  | nil => exact h
  | cons m ms ih =>
    unfold Registry.enrolWhere
    split_ifs
    · exact ih (h.enrol m)
    · exact ih h

/-- A list of mappings gives each action that had no entry the first mapping for it that the filter
lets through, and leaves the other entries as they are. -/
theorem WellFormed.lookup?_enrolWhere {r : Registry H D} (h : r.WellFormed) (keep : Action → Bool)
    (ms : List (Mapping H)) (b : Action) :
    (r.enrolWhere keep ms).2.lookup? b = (r.lookup? b).or
      ((ms.find? fun m => keep m.action && m.action.isReal && m.action == b).map .ofMapping) := by
  induction ms generalizing r with
  | nil => simp [Registry.enrolWhere]
  | cons m ms ih =>
    unfold Registry.enrolWhere
    by_cases hk : keep m.action = true
    · rw [if_pos hk]
      show (Registry.enrolWhere keep (r.enrol m).2 ms).2.lookup? b = _
      rw [ih (h.enrol m), h.lookup?_enrol, Option.or_assoc]
      -- The mapping is the first for the action, or those behind it decide.
      by_cases hm : m.action.isReal = true ∧ m.action = b
      · obtain ⟨hreal, rfl⟩ := hm
        rw [if_pos ⟨hreal, rfl⟩, List.find?_cons_of_pos (by simp [hk, hreal])]
        rfl
      · rw [if_neg hm, Option.none_or, List.find?_cons_of_neg (by simp_all)]
    · rw [if_neg hk]
      show (Registry.enrolWhere keep r ms).2.lookup? b = _
      rw [ih h, List.find?_cons_of_neg (by simp [hk])]

/-- A list of mappings changes neither what a registry is known by nor its dispatcher, its dialog
slot and its epoch. -/
theorem enrolWhere_frame (r : Registry H D) (keep : Action → Bool) (ms : List (Mapping H)) :
    (r.enrolWhere keep ms).2.id = r.id ∧ (r.enrolWhere keep ms).2.dispatcher = r.dispatcher ∧
      (r.enrolWhere keep ms).2.dialogOwner = r.dialogOwner ∧
      (r.enrolWhere keep ms).2.epoch = r.epoch := by
  have one : ∀ (r : Registry H D) (m : Mapping H),
      (r.enrol m).2.id = r.id ∧ (r.enrol m).2.dispatcher = r.dispatcher ∧
        (r.enrol m).2.dialogOwner = r.dialogOwner ∧ (r.enrol m).2.epoch = r.epoch := by
    intro r m
    unfold Registry.enrol
    split_ifs <;> exact ⟨rfl, rfl, rfl, rfl⟩
  induction ms generalizing r with
  | nil => exact ⟨rfl, rfl, rfl, rfl⟩
  | cons m ms ih =>
    unfold Registry.enrolWhere
    split_ifs
    · obtain ⟨h1, h2, h3, h4⟩ := one r m
      obtain ⟨i1, i2, i3, i4⟩ := ih (r.enrol m).2
      exact ⟨i1.trans h1, i2.trans h2, i3.trans h3, i4.trans h4⟩
    · exact ih r

end Switchboard.Registry
