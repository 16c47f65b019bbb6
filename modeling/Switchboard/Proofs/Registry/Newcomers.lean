import Switchboard.Proofs.Registry.Reordering
import Mathlib.Data.List.Induction

/-!
# Which mappings a registry keeps

Of a list of mappings a registry keeps those that are new: each of them is for a real action which
had no mapping, and it is the first for that action in the list. They are added behind the entries
that are there, in the order of the list and idle, and the actions of all the others are turned down
(`WellFormed.entries_register`, `WellFormed.report_register`). Whether a mapping is new is said of
the list alone, by what stands before it there; the table that grows meanwhile agrees with that at
every place (`WellFormed.takes_register`).
-/

namespace Switchboard

/-- The elements of a list that are chosen in view of those that stand before them. -/
def chosenByPast {α : Type} (chosen : List α → α → Bool) (xs : List α) : List α :=
  (xs.zipIdx.filter fun x => chosen (xs.take x.2) x.1).map (·.1)

/-- An element more is chosen or not in view of all the others, which are chosen as before. -/
theorem chosenByPast_concat {α : Type} (chosen : List α → α → Bool) (xs : List α) (x : α) :
    chosenByPast chosen (xs ++ [x]) =
      chosenByPast chosen xs ++ if chosen xs x then [x] else [] := by
  -- What comes behind an element has no part in what stands before it.
  have hbefore : xs.zipIdx.filter (fun y => chosen ((xs ++ [x]).take y.2) y.1) =
      xs.zipIdx.filter fun y => chosen (xs.take y.2) y.1 := by
    refine List.filter_congr fun y hy => ?_
    rw [List.take_append_of_le_length (Nat.le_of_lt (List.snd_lt_of_mem_zipIdx hy))]
  unfold chosenByPast
  rw [List.zipIdx_append, List.filter_append, List.map_append, hbefore]
  cases hx : chosen xs x <;> simp [hx]

/-- Every element is chosen or is not. -/
theorem length_chosenByPast_add {α : Type} (chosen : List α → α → Bool) (xs : List α) :
    (chosenByPast chosen xs).length +
      (chosenByPast (fun before x => !chosen before x) xs).length = xs.length := by
  induction xs using List.reverseRecOn with
  | nil => rfl
  | append_singleton xs x ih =>
    rw [chosenByPast_concat, chosenByPast_concat]
    cases chosen xs x <;> simp <;> omega

/-- If it makes no difference to any element what stands before it, the choice is a filter. -/
theorem chosenByPast_eq_filter {α : Type} {chosen : List α → α → Bool} {p : α → Bool}
    {xs : List α} (h : ∀ before x after, xs = before ++ x :: after → chosen before x = p x) :
    chosenByPast chosen xs = xs.filter p := by
  induction xs using List.reverseRecOn with
  | nil => rfl
  | append_singleton xs x ih =>
    have hxs : chosenByPast chosen xs = xs.filter p :=
      ih fun before y after hy => h before y (after ++ [x]) (by rw [hy]; simp)
    rw [chosenByPast_concat, hxs, h xs x [] rfl, List.filter_append, List.filter_singleton]
    cases p x <;> rfl

namespace Mapping

variable {H : Type}

/-- Whether a mapping is new behind others, given which actions have a mapping already: its action
is real, has none, and gets none from the others. -/
def isNew (known : Action → Bool) (before : List (Mapping H)) (m : Mapping H) : Bool :=
  m.action.isReal && !known m.action && !before.any (·.action == m.action)

/-- The mappings of a list that are new there. -/
def newcomers (known : Action → Bool) (ms : List (Mapping H)) : List (Mapping H) :=
  chosenByPast (isNew known) ms

/-- The mappings of a list that are not new there. -/
def leftovers (known : Action → Bool) (ms : List (Mapping H)) : List (Mapping H) :=
  chosenByPast (fun before m => !isNew known before m) ms

/-- In a list of real actions without repetition a mapping is new if its action has none before. -/
theorem isNew_eq_of_nodup {known : Action → Bool} {ms : List (Mapping H)}
    (hreal : ∀ m ∈ ms, m.action.isReal = true) (hnodup : (ms.map (·.action)).Nodup)
    (before : List (Mapping H)) (m : Mapping H) (after : List (Mapping H))
    (hms : ms = before ++ m :: after) : isNew known before m = !known m.action := by
  subst hms
  have hm : m.action.isReal = true := hreal m (by simp)
  have hfirst : before.any (·.action == m.action) = false := by
    rw [List.map_append, List.map_cons] at hnodup
    rw [List.any_eq_false]
    intro x hx heq
    have hmem : m.action ∈ before.map (·.action) := by
      rw [← beq_iff_eq.1 heq]
      exact List.mem_map_of_mem hx
    exact (List.nodup_append.1 hnodup).2.2 _ hmem _ List.mem_cons_self rfl
  simp [isNew, hm, hfirst]

/-- Of such a list the mappings are new whose actions have none before. -/
theorem newcomers_eq_filter {ms : List (Mapping H)} (hreal : ∀ m ∈ ms, m.action.isReal = true)
    (hnodup : (ms.map (·.action)).Nodup) (known : Action → Bool) :
    newcomers known ms = ms.filter (!known ·.action) :=
  chosenByPast_eq_filter (isNew_eq_of_nodup hreal hnodup)

/-- The others are those whose actions have one. -/
theorem leftovers_eq_filter {ms : List (Mapping H)} (hreal : ∀ m ∈ ms, m.action.isReal = true)
    (hnodup : (ms.map (·.action)).Nodup) (known : Action → Bool) :
    leftovers known ms = ms.filter (known ·.action) := by
  refine chosenByPast_eq_filter fun before m after hms => ?_
  rw [isNew_eq_of_nodup hreal hnodup before m after hms, Bool.not_not]

end Mapping

namespace Registry

variable {H D : Type} {r : Registry H D}

/-- After some mappings have been offered an action has a mapping if it had one before, or if it is
real and one of them is for it. -/
theorem WellFormed.isRegistered_register (h : r.WellFormed) (ms : List (Mapping H)) (a : Action) :
    (r.register ms).2.isRegistered a =
      (r.isRegistered a || ms.any fun m => m.action.isReal && m.action == a) := by
  have hlookup : (r.register ms).2.lookup? a = _ := h.lookup?_enrolWhere (fun _ => true) ms a
  have hwell : (r.register ms).2.WellFormed := h.enrolWhere _ ms
  have hfind : (ms.find? fun m => true && m.action.isReal && m.action == a).isSome =
      ms.any fun m => m.action.isReal && m.action == a := by
    rw [Bool.eq_iff_iff, List.find?_isSome, List.any_eq_true]
    simp only [Bool.true_and]
  rw [hwell.isRegistered_eq, h.isRegistered_eq, hlookup, Option.isSome_or, Option.isSome_map, hfind]

/-- What is taken of a list at some place is what is new there. -/
theorem WellFormed.takes_register (h : r.WellFormed) (ms : List (Mapping H)) (m : Mapping H) :
    (r.register ms).2.takes m = Mapping.isNew r.isRegistered ms m := by
  unfold takes Mapping.isNew
  rw [h.isRegistered_register]
  cases hreal : m.action.isReal with
  | false => rfl
  | true =>
    -- Any mapping for the action is one for a real action.
    have hany : (ms.any fun x => x.action.isReal && x.action == m.action) =
        ms.any fun x => x.action == m.action := by
      rw [Bool.eq_iff_iff, List.any_eq_true, List.any_eq_true]
      refine exists_congr fun x => and_congr_right fun _ => ?_
      rw [Bool.and_eq_true, beq_iff_eq, and_iff_right_iff_imp]
      intro hx
      rw [hx, hreal]
    rw [hany, Bool.not_or]
    rfl

/-- What becomes of one more mapping. -/
theorem register_concat (r : Registry H D) (ms : List (Mapping H)) (m : Mapping H) :
    r.register (ms ++ [m]) =
      ((r.register ms).1 ++ Report.one m.action ((r.register ms).2.enrol m).1,
        ((r.register ms).2.enrol m).2) := by
  rw [register_append, register_cons]
  show ((r.register ms).1 ++ (_ ++ ({} : Report)), _) = _
  rw [Report.append_empty]
  rfl

/-- Mappings for actions that have one are all turned down, and nothing changes. -/
theorem register_of_registered {ms : List (Mapping H)}
    (hms : ∀ m ∈ ms, r.isRegistered m.action = true) :
    r.register ms = (⟨0, ms.map (·.action)⟩, r) := by
  induction ms with
  | nil => rfl
  | cons m ms ih =>
    have htakes : r.takes m = false := by
      rw [takes, hms m List.mem_cons_self, Bool.not_true, Bool.and_false]
    rw [register_cons, enrol_snd, one_enrol, htakes]
    simp only [Bool.false_eq_true, if_false]
    rw [ih fun m' hm' => hms m' (List.mem_cons_of_mem m hm')]
    rfl

/-- The new mappings of a list are added behind the entries that are there, in order and idle. -/
theorem WellFormed.entries_register (h : r.WellFormed) (ms : List (Mapping H)) :
    (r.register ms).2.entries =
      r.entries ++ (Mapping.newcomers r.isRegistered ms).map .ofMapping := by
  -- From the end, since the last mapping meets the table that all others have left.
  induction ms using List.reverseRecOn with
  | nil => exact (List.append_nil _).symm
  | append_singleton ms m ih =>
    have hone : ((r.register ms).2.enrol m).2.entries = (r.register ms).2.entries ++
        (if Mapping.isNew r.isRegistered ms m then [m] else []).map .ofMapping := by
      rw [enrol_snd, h.takes_register]
      cases Mapping.isNew r.isRegistered ms m with
      | true => rfl
      | false => exact (List.append_nil _).symm
    unfold Mapping.newcomers at ih ⊢
    rw [register_concat, chosenByPast_concat, List.map_append, ← List.append_assoc, ← ih]
    exact hone

/-- The report counts the new mappings of a list and names the actions of the others in order. -/
theorem WellFormed.report_register (h : r.WellFormed) (ms : List (Mapping H)) :
    (r.register ms).1 = ⟨(Mapping.newcomers r.isRegistered ms).length,
      (Mapping.leftovers r.isRegistered ms).map (·.action)⟩ := by
  induction ms using List.reverseRecOn with
  | nil => rfl
  | append_singleton ms m ih =>
    unfold Mapping.newcomers Mapping.leftovers at ih ⊢
    rw [register_concat, ih, one_enrol, h.takes_register, chosenByPast_concat, chosenByPast_concat,
      List.length_append, List.map_append]
    cases Mapping.isNew r.isRegistered ms m <;> rfl

/-- A registry keeps the first mapping of each action that is new to it. In every state that a new
registry can get into, for every list of mappings that is offered: behind the entries that were
there, which stay as they are, the table has the mappings of the list that are for a real action
which had none and stand first for it there, in the order of the list and idle; the report counts
these and names the actions of all others, in the order of the list and as often as they come, and
none is left out; what leads to the UI thread, the dialog slot and the epoch are untouched. And a
list can be offered in two parts: the reports are those on the parts, and the registry is the same.
-/
theorem first_mappings_are_kept (id capacity : Nat) (steps : List (Step H D))
    (ms : List (Mapping H)) :
    let r : Registry H D := (new id capacity).run steps
    let report := (r.register ms).1
    let r' := (r.register ms).2
    r'.entries = r.entries ++ (Mapping.newcomers r.isRegistered ms).map (fun m =>
        { action := m.action, handler := m.handler, flags := m.flags, busy := false,
          runningSince := none }) ∧
      report.added = (Mapping.newcomers r.isRegistered ms).length ∧
      report.rejected = (Mapping.leftovers r.isRegistered ms).map (·.action) ∧
      report.added + report.rejected.length = ms.length ∧
      r'.dispatcher = r.dispatcher ∧ r'.dialogOwner = r.dialogOwner ∧ r'.epoch = r.epoch ∧
      ∀ new, (r.register (ms ++ new)).2 = (r'.register new).2 ∧
        (r.register (ms ++ new)).1.added = report.added + (r'.register new).1.added ∧
        (r.register (ms ++ new)).1.rejected = report.rejected ++ (r'.register new).1.rejected := by
  intro r report r'
  have h : r.WellFormed := (wellFormed_new id capacity).run steps
  obtain ⟨-, hdispatcher, howner, hepoch⟩ := enrolWhere_frame r (fun _ => true) ms
  have hreport : report = _ := h.report_register ms
  refine ⟨h.entries_register ms, by rw [hreport], by rw [hreport], ?_, hdispatcher, howner, hepoch,
    fun new => ?_⟩
  -- Each mapping of the list is either a newcomer or left over.
  · rw [hreport, List.length_map]
    exact length_chosenByPast_add _ ms
  · rw [register_append]
    exact ⟨rfl, rfl, rfl⟩

example : ((new 0 1 : Registry Unit Unit).register
    [softReset, dialogFor .quit, ⟨.reserved, (), Flags.none⟩, softReset]).1 =
      ⟨2, [.reserved, .resetSoft]⟩ := by decide

end Registry

end Switchboard
