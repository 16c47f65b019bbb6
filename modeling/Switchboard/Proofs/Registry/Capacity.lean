import Switchboard.Proofs.Registry.Newcomers
import Switchboard.Proofs.Registry.Slots
import Mathlib.Order.Bounds.Defs
import Mathlib.Tactic.Ring

/-!
# Room in the table

A table begins with room for a number of entries and doubles its room when an entry is added to a
full one. So its room is at every moment the first room doubled as few times as suffice for the
entries that are there (`FitsTightly`), and can be told from their number alone. Adding a mapping
keeps that (`FitsTightly.push`), and so does every step (`FitsTightly.perform`).

The room is bounded although nothing limits how often mappings are offered: a table that grows is
full, and there are fewer entries than identifiers. What is in the table stays where it is while the
table grows (`WellFormed.index_register`).
-/

namespace Switchboard.Registry

variable {H D : Type} {r : Registry H D}

/-- The room in the table is the first room doubled as few times as hold the entries. -/
def FitsTightly (r : Registry H D) : Prop :=
  ∃ k, IsLeast {j | r.size ≤ r.initialCapacity * 2 ^ j} k ∧ r.capacity = r.initialCapacity * 2 ^ k

/-- The entries fit. -/
theorem FitsTightly.size_le (h : r.FitsTightly) : r.size ≤ r.capacity := by
  obtain ⟨k, hk, hcapacity⟩ := h
  rw [hcapacity]
  exact hk.1

/-- Room beyond the first is less than twice what the entries take. -/
theorem FitsTightly.capacity_le (h : r.FitsTightly) :
    r.capacity = r.initialCapacity ∨ r.capacity ≤ 2 * (r.size - 1) := by
  obtain ⟨k, hk, hcapacity⟩ := h
  cases k with
  | zero => exact .inl (by rw [hcapacity, pow_zero, mul_one])
  | succ k =>
    have hhalf : r.initialCapacity * 2 ^ k < r.size := by
      refine Nat.lt_of_not_le fun hle => ?_
      have hleast : k + 1 ≤ k := hk.2 hle
      omega
    have hdouble : r.capacity = 2 * (r.initialCapacity * 2 ^ k) := by rw [hcapacity]; ring
    exact .inr (by omega)

/-- A table without entries fits tightly if it has its first room. -/
theorem fitsTightly_of_empty (hentries : r.entries = []) (hcapacity : r.capacity = r.initialCapacity) :
    r.FitsTightly := by
  refine ⟨0, ⟨?_, fun j _ => Nat.zero_le j⟩, by rw [hcapacity, pow_zero, mul_one]⟩
  show r.entries.length ≤ _
  rw [hentries]
  exact Nat.zero_le _

/-- Changes that keep the number of entries and the room keep the fit. -/
theorem FitsTightly.of_eq {r' : Registry H D} (h : r.FitsTightly) (hsize : r'.size = r.size)
    (hcapacity : r'.capacity = r.capacity) (hinitial : r'.initialCapacity = r.initialCapacity) :
    r'.FitsTightly := by
  unfold FitsTightly
  rw [hsize, hcapacity, hinitial]
  exact h

/-! ## One mapping -/

/-- A mapping is turned down, or it finds room, or the table was full and has doubled. -/
theorem enrol_cases (r : Registry H D) (hpos : 0 < r.capacity) (m : Mapping H) :
    ((r.enrol m).2 = r ∧ ∀ grown, (r.enrol m).1 ≠ .added grown) ∨
    (r.size ≠ r.capacity ∧ (r.enrol m).1 = .added none ∧ (r.enrol m).2 = r.push m ∧
      (r.push m).capacity = r.capacity) ∨
    (r.size = r.capacity ∧ (r.enrol m).1 = .added (some (2 * r.capacity)) ∧
      (r.enrol m).2 = r.push m ∧ (r.push m).capacity = 2 * r.capacity) := by
  unfold Registry.enrol
  split_ifs
  · exact .inl ⟨rfl, by simp⟩
  · exact .inl ⟨rfl, by simp⟩
  -- Whether the table grows is decided before the entry is put in.
  · by_cases hfull : r.entries.length = r.capacity
    · have hgrown : r.grownTo? = some (2 * r.capacity) := by
        rw [grownTo?, if_pos hfull]
        congr 1
        omega
      exact .inr (.inr ⟨hfull, by rw [hgrown], rfl, by rw [push, hgrown]; rfl⟩)
    · have hgrown : r.grownTo? = none := if_neg hfull
      exact .inr (.inl ⟨hfull, by rw [hgrown], rfl, by rw [push, hgrown]; rfl⟩)

/-- There is room for an entry if there is in the empty table. -/
theorem FitsTightly.capacity_pos (h : r.FitsTightly) (hpos : 0 < r.initialCapacity) :
    0 < r.capacity := by
  obtain ⟨k, -, hcapacity⟩ := h
  rw [hcapacity]
  exact Nat.mul_pos hpos (Nat.two_pow_pos k)

/-- One more mapping leaves the table tight. -/
theorem FitsTightly.enrol (h : r.FitsTightly) (hpos : 0 < r.initialCapacity) (m : Mapping H) :
    (r.enrol m).2.FitsTightly := by
  have hroom := h.size_le
  obtain ⟨k, hk, hcapacity⟩ := h
  have hfits : r.size ≤ r.initialCapacity * 2 ^ k := hk.1
  have hdouble : r.initialCapacity * 2 ^ (k + 1) = 2 * r.capacity := by rw [hcapacity]; ring
  have hcapacityPos : 0 < r.capacity := FitsTightly.capacity_pos ⟨k, hk, hcapacity⟩ hpos
  rcases r.enrol_cases hcapacityPos m with ⟨hsame, -⟩ | ⟨hfree, -, hpush, hgrown⟩ |
    ⟨hfull, -, hpush, hgrown⟩
  · rw [hsame]
    exact ⟨k, hk, hcapacity⟩
  · -- There is room for one more, and what was too small before still is.
    rw [hpush]
    refine ⟨k, ⟨?_, fun j hj => hk.2 ?_⟩, hgrown.trans hcapacity⟩
    · show (r.push m).size ≤ r.initialCapacity * 2 ^ k
      rw [size_push]
      omega
    · have hj' : (r.push m).size ≤ r.initialCapacity * 2 ^ j := hj
      rw [size_push] at hj'
      exact Nat.le_of_succ_le hj'
  · -- The room that is full is too small for one more, and twice as much is not.
    rw [hpush]
    refine ⟨k + 1, ⟨?_, fun j hj => ?_⟩, hgrown.trans hdouble.symm⟩
    · show (r.push m).size ≤ r.initialCapacity * 2 ^ (k + 1)
      rw [size_push, hdouble]
      omega
    · have hj' : (r.push m).size ≤ r.initialCapacity * 2 ^ j := hj
      rw [size_push, hfull, hcapacity] at hj'
      have hpow : 2 ^ k < 2 ^ j := Nat.lt_of_mul_lt_mul_left (Nat.lt_of_succ_le hj')
      exact (Nat.pow_lt_pow_iff_right (by omega)).1 hpow

/-- A mapping that is offered leaves the room of an empty table as it was. -/
@[simp] theorem initialCapacity_enrol (r : Registry H D) (m : Mapping H) :
    (r.enrol m).2.initialCapacity = r.initialCapacity := by
  rw [enrol_snd]
  split <;> rfl

/-! ## Every step -/

/-- Mappings that are offered leave the table fitting. -/
theorem FitsTightly.register (h : r.FitsTightly) (hpos : 0 < r.initialCapacity)
    (ms : List (Mapping H)) : (r.register ms).2.FitsTightly := by
  induction ms generalizing r with
  | nil => exact h
  | cons m ms ih =>
    rw [register_cons]
    exact ih (h.enrol hpos m) (by rw [initialCapacity_enrol]; exact hpos)

/-- A release keeps the room and the number of entries. -/
theorem FitsTightly.release (h : r.FitsTightly) (a : Action) (epoch : Option Nat) :
    (r.release a epoch).2.FitsTightly := by
  have hsize : (r.release a epoch).2.size = r.size := by
    simpa [registered, size] using congrArg List.length (r.registered_release a epoch)
  obtain ⟨es, owner, heq⟩ := r.release_eq a epoch
  exact h.of_eq hsize (by rw [heq]) (by rw [heq])

/-- A request keeps the room and the number of entries. -/
theorem FitsTightly.trigger (h : r.FitsTightly) (a : Action) (now : Nat) :
    (r.perform (.trigger a now)).FitsTightly := by
  have hsize : (r.perform (.trigger a now)).size = r.size := by
    simpa [registered, size] using congrArg List.length (r.registered_trigger a now)
  obtain ⟨es, owner, heq⟩ := r.trigger_eq a now
  exact h.of_eq hsize (by rw [heq]) (by rw [heq])

/-- Every step leaves the table fitting. -/
theorem FitsTightly.perform (h : r.FitsTightly) (hpos : 0 < r.initialCapacity) (s : Step H D) :
    (r.perform s).FitsTightly := by
  cases s with
  | register ms => exact h.register hpos ms
  | setDispatcher d => exact h
  | trigger a now => exact h.trigger a now
  | finish a => exact h.release a none
  | finishInvocation i => exact h.release i.action (some i.epoch)
  | shutdown => exact fitsTightly_of_empty rfl rfl

/-- Every run leaves the table fitting. -/
theorem FitsTightly.run (h : r.FitsTightly) (hpos : 0 < r.initialCapacity)
    (steps : List (Step H D)) : (r.run steps).FitsTightly := by
  induction steps generalizing r with
  | nil => exact h
  | cons s steps ih =>
    exact ih (h.perform hpos s) (by rw [initialCapacity_perform]; exact hpos)

/-! ## What is there stays there -/

/-- Mappings that are offered leave every entry at its place, and the index with it. -/
theorem WellFormed.index_register (h : r.WellFormed) (ms : List (Mapping H)) {a : Action} {i : Nat}
    (hi : r.index.get a = some i) : (r.register ms).2.index.get a = some i := by
  have hwell : (r.register ms).2.WellFormed := h.enrolWhere _ ms
  obtain ⟨hlt, -⟩ := h.index_eq_some_iff.1 hi
  rw [hwell.index_iff, h.entries_register, List.getElem?_append_left hlt]
  exact (h.index_iff a i).1 hi

/-- The table grows by doubling and only when it is full. In every state that a new registry can get
into, whatever was offered to it, in whatever calls, and however often it was emptied: its room is
the first room, at least one, doubled the least number of times that makes it hold the entries. So it
holds them, and it exceeds what was asked for only up to twice the number of identifiers less two. A
mapping that is turned down changes nothing; one that is added finds room and leaves it as it is, or
finds the table full and doubles it, within that bound. Emptying the table gives back the first room.
And whatever is offered, the entries that were there stay as they are and where they are, and the
index keeps their places. -/
theorem table_doubles_only_when_full (id capacity : Nat) (steps : List (Step H D)) :
    let first := max capacity 1
    let r : Registry H D := (new id capacity).run steps
    (∃ k, IsLeast {j | r.size ≤ first * 2 ^ j} k ∧ r.capacity = first * 2 ^ k) ∧
      r.size ≤ r.capacity ∧ r.capacity ≤ max capacity (2 * (Action.count - 2)) ∧
      (r.perform .shutdown).capacity = first ∧
      (∀ m, ((r.enrol m).2 = r ∧ ∀ grown, (r.enrol m).1 ≠ .added grown) ∨
        (r.size < r.capacity ∧ (r.enrol m).1 = .added none ∧
          (r.enrol m).2.capacity = r.capacity) ∨
        (r.size = r.capacity ∧ (r.enrol m).1 = .added (some (2 * r.capacity)) ∧
          (r.enrol m).2.capacity = 2 * r.capacity ∧
          2 * r.capacity ≤ 2 * (Action.count - 2))) ∧
      ∀ ms, r.entries <+: (r.register ms).2.entries ∧
        ∀ a i, r.index.get a = some i → (r.register ms).2.index.get a = some i := by
  intro first r
  have hinitial : r.initialCapacity = first := initialCapacity_run (new id capacity) steps
  have hpos : 0 < r.initialCapacity := by omega
  have hwell : r.WellFormed := (wellFormed_new id capacity).run steps
  have hfits : r.FitsTightly := by
    have hnew : (new id capacity : Registry H D).FitsTightly := fitsTightly_of_empty rfl rfl
    exact hnew.run (Nat.lt_of_lt_of_le Nat.one_pos (Nat.le_max_right capacity 1)) steps
  have hroom := hfits.size_le
  refine ⟨?_, hroom, ?_, hinitial, fun m => ?_, fun ms => ⟨?_, fun a i => hwell.index_register ms⟩⟩
  · rw [← hinitial]
    exact hfits
  -- The reserved identifier has no entry, so there are fewer entries than identifiers.
  · have hsize : r.size < Action.count := hwell.size_lt_count
    have hcount : 3 ≤ Action.count := by decide
    rcases hfits.capacity_le with hfirst | hgrown <;> omega
  · rcases r.enrol_cases (hfits.capacity_pos hpos) m with hrejected | ⟨hfree, hadded, hpush, hsame⟩ |
      ⟨hfull, hadded, hpush, hgrown⟩
    · exact .inl hrejected
    · refine .inr (.inl ⟨by omega, hadded, ?_⟩)
      rw [hpush]
      exact hsame
    · -- The table with the mapping is one more that holds fewer entries than there are identifiers.
      have hsize : (r.push m).size < Action.count := by
        rw [← hpush]
        exact (hwell.enrol m).size_lt_count
      rw [size_push] at hsize
      refine .inr (.inr ⟨hfull, hadded, ?_, by omega⟩)
      rw [hpush]
      exact hgrown
  · rw [hwell.entries_register]
    exact List.prefix_append _ _

example : ((new 0 2 : Registry Unit Unit).register
    (((Action.all.drop 1).take 9).map fun a => ⟨a, (), Flags.none⟩)).2.capacity = 16 := by decide

end Switchboard.Registry
