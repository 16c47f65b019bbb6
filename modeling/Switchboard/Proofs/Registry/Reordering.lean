import Switchboard.Proofs.Registry.Restart
import Mathlib.Data.Multiset.Defs

/-!
# The order in which mappings are added

Subsystems add their mappings in some order, and nothing but the lists of actions and of stalled
runs tells in which. Two registries are `Reordered` if they know the same of every action and agree
in all else but the places of their entries. No operation looks at a place, so every step leaves
such registries reordered and is answered the same (`Reordered.perform`, `Reordered.reply`), and so
is every question, apart from the order of an answer (`Reordered.unordered_eq`).

Two mappings of different actions can be added in either order (`WellFormed.enrol_comm`), and so a
list without a second mapping of a real action can be added in any order, in one call or in several
(`registerEach_perm`).
-/

namespace Switchboard

open scoped List

/-! ## Reports -/

namespace Report

/-- The report on one mapping. -/
def one (a : Action) (e : Enrolment) : Report := ({} : Report).add a e

/-- Two reports count the same and turn down the same, in some order. -/
structure Agrees (p q : Report) : Prop where
  added : p.added = q.added
  rejected : p.rejected ~ q.rejected

/-- A report is its count and what it turned down. -/
theorem ext {p q : Report} (hadded : p.added = q.added) (hrejected : p.rejected = q.rejected) :
    p = q := by
  obtain ⟨added, rejected⟩ := p
  obtain rfl := hadded
  obtain rfl := hrejected
  rfl

/-- Reports are put together in any grouping. -/
theorem append_assoc (p q t : Report) : p ++ q ++ t = p ++ (q ++ t) :=
  ext (Nat.add_assoc ..) (List.append_assoc ..)

/-- The empty report adds nothing in front. -/
theorem empty_append (p : Report) : {} ++ p = p := ext (Nat.zero_add _) (List.nil_append _)

/-- The empty report adds nothing behind. -/
theorem append_empty (p : Report) : p ++ {} = p := ext (Nat.add_zero _) (List.append_nil _)

/-- To note one mapping is to put the report on it behind. -/
theorem add_eq (p : Report) (a : Action) (e : Enrolment) : p.add a e = p ++ one a e := by
  cases e with
  | added grown => exact ext rfl (List.append_nil _).symm
  | withheld => exact (append_empty p).symm
  | _ => rfl

/-- The report on the first mapping comes before that on the others. -/
theorem ofEnrolments_cons (a : Action) (e : Enrolment) (es : List (Action × Enrolment)) :
    ofEnrolments ((a, e) :: es) = one a e ++ ofEnrolments es := by
  -- A report that is begun with stays in front.
  have hfoldl : ∀ p : Report,
      es.foldl (fun p e => p.add e.1 e.2) p = p ++ ofEnrolments es := by
    unfold ofEnrolments
    induction es with
    | nil => exact fun p => (append_empty p).symm
    | cons e es ih =>
      intro p
      rw [List.foldl_cons, List.foldl_cons, ih, ih (add {} _ _), add_eq, append_assoc]
      rfl
  exact hfoldl _

/-- Equal reports agree. -/
theorem Agrees.of_eq {p q : Report} (h : p = q) : p.Agrees q := h ▸ ⟨rfl, .rfl⟩

/-- Agreement can be chained. -/
theorem Agrees.trans {p q t : Report} (h : p.Agrees q) (h' : q.Agrees t) : p.Agrees t :=
  ⟨h.added.trans h'.added, h.rejected.trans h'.rejected⟩

/-- What comes in front of reports that agree does not matter. -/
theorem Agrees.append_left {p q : Report} (h : p.Agrees q) (t : Report) :
    (t ++ p).Agrees (t ++ q) :=
  ⟨congrArg (t.added + ·) h.added, h.rejected.append_left t.rejected⟩

/-- Reports in front can be exchanged, up to agreement. -/
theorem append_left_comm (p q t : Report) : (p ++ (q ++ t)).Agrees (q ++ (p ++ t)) :=
  ⟨Nat.add_left_comm .., List.perm_append_comm_assoc ..⟩

end Report

/-- No real action has two mappings in a list. -/
def Mapping.Distinct {H : Type} (ms : List (Mapping H)) : Prop :=
  ((ms.map (·.action)).filter (·.isReal)).Nodup

namespace Mapping

variable {H : Type} {m m' : Mapping H} {ms ms' : List (Mapping H)}

/-- Without its first mapping, the list is still one of distinct mappings. -/
theorem Distinct.of_cons (h : Distinct (m :: ms)) : Distinct ms := by
  refine h.sublist (List.Sublist.filter _ ?_)
  exact List.sublist_cons_self _ _

/-- The order of a list does not matter for its mappings to be distinct. -/
theorem Distinct.perm (h : Distinct ms) (hperm : ms ~ ms') : Distinct ms' :=
  ((hperm.map _).filter _).nodup_iff.1 h

/-- Two mappings of one action, among the first, are not of a real one. -/
theorem Distinct.not_real (h : Distinct (m :: m' :: ms)) (hm : m.action = m'.action) :
    m.action.isReal = false := by
  rw [← Bool.not_eq_true]
  intro hreal
  simp [Distinct, ← hm, hreal] at h

end Mapping

namespace Registry

variable {H D : Type}

/-! ## Registries that differ in the places of their entries -/

/-- The registry without its entries. -/
def bare (r : Registry H D) : Registry H D := { r with entries := [], index := .replicate none }

/-- What a registry answers, without the order of what is answered as a list. -/
structure Unordered where
  /-- The answers that are no lists. -/
  answers : Answers
  /-- The actions that have a mapping. -/
  registered : Multiset Action
  /-- The runs that are of some age at some time. -/
  stalled : Nat → Nat → Multiset StalledRun

/-- The answers of a registry, without their order. -/
def unordered (r : Registry H D) : Unordered where
  answers := { r.answers with registered := [], stalled := fun _ _ => [] }
  registered := r.registered
  stalled threshold now := r.stalled threshold now

/-- Two registries know the same of every action, and agree in all else but the places of their
entries. -/
structure Reordered (r r' : Registry H D) : Prop where
  /-- The one is well-formed. -/
  left : r.WellFormed
  /-- The other is well-formed. -/
  right : r'.WellFormed
  /-- They have the same entries, by action. -/
  lookup : ∀ a, r.lookup? a = r'.lookup? a
  /-- They agree without their entries. -/
  rest : r.bare = r'.bare

variable {r r' r'' : Registry H D}

/-- A well-formed registry agrees with itself. -/
theorem WellFormed.reordered (h : r.WellFormed) : r.Reordered r := ⟨h, h, fun _ => rfl, rfl⟩

/-! ## One mapping -/

/-- Whether a mapping that is offered is added. -/
def takes (r : Registry H D) (m : Mapping H) : Bool :=
  m.action.isReal && !r.isRegistered m.action

/-- A mapping that is taken is put at the end of the table, and any other leaves the registry as it
is. -/
theorem enrol_snd (r : Registry H D) (m : Mapping H) :
    (r.enrol m).2 = if r.takes m then r.push m else r := by
  unfold takes Registry.enrol
  cases m.action.isReal <;> cases r.isRegistered m.action <;> rfl

/-- The report on a mapping tells whether it was added. -/
theorem one_enrol (r : Registry H D) (m : Mapping H) :
    Report.one m.action (r.enrol m).1 = if r.takes m then ⟨1, []⟩ else ⟨0, [m.action]⟩ := by
  unfold takes Registry.enrol
  cases m.action.isReal <;> cases r.isRegistered m.action <;> rfl

/-- Whether a mapping is added does not depend on one for another action. -/
theorem WellFormed.takes_enrol (h : r.WellFormed) {m m' : Mapping H}
    (hne : m.action = m'.action → m.action.isReal = false) :
    (r.enrol m).2.takes m' = r.takes m' := by
  unfold takes
  rw [(h.enrol m).isRegistered_eq, h.lookup?_enrol, h.isRegistered_eq, if_neg, Option.or_none]
  -- The mapping before can stand in the way only if it was added and is for the same action.
  rintro ⟨hreal, hm⟩
  simp [hne hm] at hreal

/-- What becomes of a list of mappings is what becomes of the first and then of the others. -/
theorem register_cons (r : Registry H D) (m : Mapping H) (ms : List (Mapping H)) :
    r.register (m :: ms) = (.one m.action (r.enrol m).1 ++ ((r.enrol m).2.register ms).1,
      ((r.enrol m).2.register ms).2) := by
  show (Report.ofEnrolments ((m.action, (r.enrol m).1) :: _), _) = _
  rw [Report.ofEnrolments_cons]
  rfl

/-- Tables of one size and one capacity grow the same. -/
theorem grownTo?_eq (hrest : r.bare = r'.bare) (hsize : r.size = r'.size) :
    r.grownTo? = r'.grownTo? := by
  have hcapacity : r.capacity = r'.capacity := (congrArg Registry.capacity hrest :)
  unfold grownTo?
  rw [hcapacity, show r.entries.length = r'.entries.length from hsize]

/-- What is added does not show but in the entries, whatever it is. -/
theorem bare_push (hrest : r.bare = r'.bare) (hsize : r.size = r'.size) (m m' : Mapping H) :
    (r.push m).bare = (r'.push m').bare := by
  calc (r.push m).bare = { r.bare with capacity := r.grownTo?.getD r.bare.capacity } := rfl
    _ = { r'.bare with capacity := r'.grownTo?.getD r'.bare.capacity } := by
        rw [grownTo?_eq hrest hsize, hrest]
    _ = (r'.push m').bare := rfl

/-- A mapping that is added makes the table longer by one. -/
@[simp] theorem size_push (r : Registry H D) (m : Mapping H) : (r.push m).size = r.size + 1 :=
  List.length_append

namespace Reordered

/-- The relation can be chained. -/
theorem trans (h : r.Reordered r') (h' : r'.Reordered r'') : r.Reordered r'' :=
  ⟨h.left, h'.right, fun a => (h.lookup a).trans (h'.lookup a), h.rest.trans h'.rest⟩

/-- They have the same number. -/
theorem id_eq (h : r.Reordered r') : r.id = r'.id := (congrArg Registry.id h.rest :)

/-- They have tables of the same capacity. -/
theorem capacity_eq (h : r.Reordered r') : r.capacity = r'.capacity :=
  (congrArg Registry.capacity h.rest :)

/-- They have the same dispatcher. -/
theorem dispatcher_eq (h : r.Reordered r') : r.dispatcher = r'.dispatcher :=
  (congrArg Registry.dispatcher h.rest :)

/-- The same action holds the dialog slot. -/
theorem dialogOwner_eq (h : r.Reordered r') : r.dialogOwner = r'.dialogOwner :=
  (congrArg Registry.dialogOwner h.rest :)

/-- They are in the same epoch. -/
theorem epoch_eq (h : r.Reordered r') : r.epoch = r'.epoch := (congrArg Registry.epoch h.rest :)

/-- They have the same entries, in some order. -/
theorem entries_perm (h : r.Reordered r') : r.entries ~ r'.entries := by
  refine (List.perm_ext_iff_of_nodup h.left.nodup_registered.of_map
    h.right.nodup_registered.of_map).2 fun e => ?_
  have hleft := h.left.lookup?_eq_some_iff (a := e.action) (e := e)
  have hright := h.right.lookup?_eq_some_iff (a := e.action) (e := e)
  rw [h.lookup] at hleft
  simpa using hleft.symm.trans hright

/-- The same actions have a mapping. -/
theorem isRegistered_eq (h : r.Reordered r') (a : Action) :
    r.isRegistered a = r'.isRegistered a := by
  rw [h.left.isRegistered_eq, h.right.isRegistered_eq, h.lookup]

/-- The same actions are running. -/
theorem isBusy_eq (h : r.Reordered r') (a : Action) : r.isBusy a = r'.isBusy a := by
  unfold isBusy
  rw [h.lookup]

/-- They know the same flags of an action. -/
theorem flags?_eq (h : r.Reordered r') (a : Action) : r.flags? a = r'.flags? a := by
  unfold flags?
  rw [h.lookup]

/-! ### Requests and releases -/

/-- A change of the entry of one action is made in both. -/
theorem updateEntry (h : r.Reordered r') (a : Action) {f : Entry H → Entry H}
    (hf : ∀ e, (f e).action = e.action) (owner : Option Action) :
    Reordered { r.updateEntry a f with dialogOwner := owner }
      { r'.updateEntry a f with dialogOwner := owner } := by
  have hbare : ∀ r : Registry H D, Registry.bare { r.updateEntry a f with dialogOwner := owner } =
      { r.bare with dialogOwner := owner } := by
    intro r
    unfold Registry.updateEntry Registry.bare
    split <;> rfl
  have hleft := h.left.updateEntry a hf
  have hright := h.right.updateEntry a hf
  refine ⟨⟨hleft.index_iff, hleft.real⟩, ⟨hright.index_iff, hright.real⟩, fun b => ?_, ?_⟩
  · show (r.updateEntry a f).lookup? b = (r'.updateEntry a f).lookup? b
    rw [h.left.lookup?_updateEntry, h.right.lookup?_updateEntry, h.lookup, h.lookup]
  · rw [hbare, hbare, h.rest]

/-- A request is judged the same. -/
theorem judge (h : r.Reordered r') (a : Action) (now : Nat) :
    (r.judge a now).1 = (r'.judge a now).1 ∧ (r.judge a now).2.Reordered (r'.judge a now).2 := by
  have hrefusal : ∀ e, r.refusal? e = r'.refusal? e := by
    intro e
    unfold refusal?
    rw [h.dialogOwner_eq, h.dispatcher_eq]
  -- Whether a request is refused, and as what it is carried out, depends on nothing but the entry
  -- and what they agree in.
  have hissue : ∀ e, r.issue e = r'.issue e := by
    intro e
    unfold issue
    rw [h.id_eq, h.epoch_eq]
  unfold Registry.judge
  rw [h.lookup]
  cases r'.lookup? a with
  | none => exact ⟨rfl, h⟩
  | some e =>
    dsimp only
    rw [hrefusal]
    cases r'.refusal? e with
    | some why => exact ⟨rfl, h⟩
    | none =>
      refine ⟨by simp only [hissue, h.dispatcher_eq], ?_⟩
      show (r.begin e now).Reordered (r'.begin e now)
      unfold Registry.begin
      rw [h.dialogOwner_eq]
      exact h.updateEntry e.action (f := (·.start now)) (fun _ => rfl) _

/-- A release is the same. -/
theorem release (h : r.Reordered r') (a : Action) (epoch : Option Nat) :
    (r.release a epoch).1 = (r'.release a epoch).1 ∧
      (r.release a epoch).2.Reordered (r'.release a epoch).2 := by
  unfold Registry.release
  rw [h.epoch_eq]
  split
  · exact ⟨rfl, h⟩
  · rw [h.lookup]
    cases r'.lookup? a with
    | none => exact ⟨rfl, h⟩
    | some e =>
      dsimp only
      rw [h.dialogOwner_eq]
      exact ⟨rfl, h.updateEntry a (f := (·.stop)) (fun _ => rfl) _⟩

/-! ### Mappings -/

/-- They have as many entries. -/
theorem size_eq (h : r.Reordered r') : r.size = r'.size := h.entries_perm.length_eq

/-- One mapping fares the same. -/
theorem enrol (h : r.Reordered r') (m : Mapping H) :
    (r.enrol m).1 = (r'.enrol m).1 ∧ (r.enrol m).2.Reordered (r'.enrol m).2 := by
  have hlookup : ∀ b, (r.enrol m).2.lookup? b = (r'.enrol m).2.lookup? b := by
    intro b
    rw [h.left.lookup?_enrol, h.right.lookup?_enrol, h.lookup]
  obtain ⟨hfate, hrest⟩ :
      (r.enrol m).1 = (r'.enrol m).1 ∧ (r.enrol m).2.bare = (r'.enrol m).2.bare := by
    unfold Registry.enrol
    rw [h.isRegistered_eq]
    split_ifs
    · exact ⟨rfl, h.rest⟩
    · exact ⟨rfl, h.rest⟩
    · exact ⟨by rw [grownTo?_eq h.rest h.size_eq], bare_push h.rest h.size_eq m m⟩
  exact ⟨hfate, h.left.enrol m, h.right.enrol m, hlookup, hrest⟩

/-- Mappings fare the same. -/
theorem register (h : r.Reordered r') (ms : List (Mapping H)) :
    (r.register ms).1 = (r'.register ms).1 ∧ (r.register ms).2.Reordered (r'.register ms).2 := by
  induction ms generalizing r r' with
  | nil => exact ⟨rfl, h⟩
  | cons m ms ih =>
    obtain ⟨hfate, hone⟩ := h.enrol m
    -- What becomes of the first mapping is the same, and it leaves the registries reordered for the
    -- others.
    obtain ⟨hreport, hrest⟩ := ih hone
    rw [register_cons, register_cons, hfate, hreport]
    exact ⟨rfl, hrest⟩

/-! ### Every step -/

/-- A step leaves registries reordered. -/
theorem perform (h : r.Reordered r') (x : Step H D) : (r.perform x).Reordered (r'.perform x) := by
  cases x with
  | register ms => exact (h.register ms).2
  | setDispatcher d =>
    refine ⟨⟨h.left.index_iff, h.left.real⟩, ⟨h.right.index_iff, h.right.real⟩, h.lookup, ?_⟩
    exact congrArg (fun r => { r with dispatcher := some d }) h.rest
  | trigger a now => exact (h.judge a now).2
  | finish a => exact (h.release a none).2
  | finishInvocation i => exact (h.release i.action (some i.epoch)).2
  | shutdown =>
    have hsame : r.shutdown = r'.shutdown := (congrArg Registry.shutdown h.rest :)
    show r.shutdown.Reordered r'.shutdown
    rw [hsame]
    exact (wellFormed_shutdown r').reordered

/-- A client learns the same from a step. -/
theorem reply (h : r.Reordered r') (x : Step H D) : r.reply x = r'.reply x := by
  cases x with
  | register ms => exact congrArg Reply.enrolled (h.register ms).1
  | trigger a now =>
    show Reply.judged _ _ _ = Reply.judged _ _ _
    rw [(h.judge a now).1]
  | finish a => exact congrArg Reply.released (h.release a none).1
  | finishInvocation i => exact congrArg Reply.released (h.release i.action (some i.epoch)).1
  | _ => rfl

/-! ### Every question -/

/-- They answer the same, up to the order of what is answered as a list. -/
theorem unordered_eq (h : r.Reordered r') : r.unordered = r'.unordered := by
  have hregistered : (r.registered : Multiset Action) = r'.registered :=
    Multiset.coe_eq_coe.2 (h.entries_perm.map _)
  have hstalled : ∀ threshold now,
      (r.stalled threshold now : Multiset StalledRun) = r'.stalled threshold now :=
    fun threshold now => Multiset.coe_eq_coe.2 (h.entries_perm.filterMap _)
  unfold unordered answers isDialogActive hasDispatcher isEmpty
  simp only [hregistered, hstalled, funext h.isRegistered_eq, h.size_eq, h.capacity_eq,
    h.dispatcher_eq, h.dialogOwner_eq, show r.isBusy = r'.isBusy from funext h.isBusy_eq,
    show r.flags? = r'.flags? from funext h.flags?_eq]

end Reordered

/-! ## Mappings in another order -/

/-- Two mappings of different actions can be added in either order. -/
theorem WellFormed.enrol_comm (h : r.WellFormed) {m m' : Mapping H}
    (hne : m.action = m'.action → m.action.isReal = false) :
    ((r.enrol m).2.enrol m').2.Reordered ((r.enrol m').2.enrol m).2 := by
  refine ⟨(h.enrol m).enrol m', (h.enrol m').enrol m, fun b => ?_, ?_⟩
  · rw [(h.enrol m).lookup?_enrol, h.lookup?_enrol, (h.enrol m').lookup?_enrol, h.lookup?_enrol,
      Option.or_assoc, Option.or_assoc]
    -- An action gets its entry of at most one of the two.
    by_cases hm : m.action.isReal = true ∧ m.action = b
    · have hm' : ¬(m'.action.isReal = true ∧ m'.action = b) := fun hm' => by
        simp [hne (hm.2.trans hm'.2.symm)] at hm
      rw [if_neg hm', Option.or_none, Option.none_or]
    · rw [if_neg hm, Option.or_none, Option.none_or]
  · have hne' : m'.action = m.action → m'.action.isReal = false := fun hm => hm ▸ hne hm.symm
    rw [enrol_snd (r.enrol m).2 m', h.takes_enrol hne, enrol_snd r m, enrol_snd (r.enrol m').2 m,
      h.takes_enrol hne', enrol_snd r m']
    -- Only if both are taken does either change what the other finds, and then only in the length
    -- of the table.
    cases r.takes m <;> cases r.takes m'
    · rfl
    · rfl
    · rfl
    · have hone : (r.push m).bare = (r.push m').bare := bare_push rfl rfl m m'
      exact bare_push hone (by simp) m' m

/-- Mappings of which no two are for one real action can be added in any order. -/
theorem register_perm {ms ms' : List (Mapping H)} (hperm : ms ~ ms') (h : r.WellFormed)
    (hdistinct : Mapping.Distinct ms) :
    (r.register ms).1.Agrees (r.register ms').1 ∧
      (r.register ms).2.Reordered (r.register ms').2 := by
  -- Any order is reached by exchanging neighbours.
  induction hperm generalizing r with
  | nil => exact ⟨.of_eq rfl, h.reordered⟩
  | cons m _ ih =>
    obtain ⟨hreport, hrest⟩ := ih (h.enrol m) hdistinct.of_cons
    rw [register_cons, register_cons]
    exact ⟨hreport.append_left _, hrest⟩
  | swap m m' ms =>
    have hne : m'.action = m.action → m'.action.isReal = false := hdistinct.not_real
    have hne' : m.action = m'.action → m.action.isReal = false := fun hm => hm ▸ hne hm.symm
    obtain ⟨hreport, hrest⟩ := (h.enrol_comm hne).register ms
    simp only [register_cons]
    refine ⟨?_, hrest⟩
    rw [hreport, one_enrol (r.enrol m').2, h.takes_enrol hne, ← one_enrol,
      one_enrol (r.enrol m).2, h.takes_enrol hne', ← one_enrol]
    exact Report.append_left_comm _ _ _
  | trans hperm _ ih ih' =>
    obtain ⟨hreport, hrest⟩ := ih h hdistinct
    obtain ⟨hreport', hrest'⟩ := ih' h (hdistinct.perm hperm)
    exact ⟨hreport.trans hreport', hrest.trans hrest'⟩

/-! ## Several calls -/

/-- Mappings are offered in several calls, one after the other; and what became of all of them. -/
def registerEach : Registry H D → List (List (Mapping H)) → Report × Registry H D
  | r, [] => ({}, r)
  | r, ms :: mss =>
    let one := r.register ms
    let rest := one.2.registerEach mss
    (one.1 ++ rest.1, rest.2)

/-- To offer one list and then another is to offer both at once. -/
theorem register_append (r : Registry H D) (ms new : List (Mapping H)) :
    r.register (ms ++ new) = ((r.register ms).1 ++ ((r.register ms).2.register new).1,
      ((r.register ms).2.register new).2) := by
  induction ms generalizing r with
  | nil => exact Prod.ext (Report.empty_append _).symm rfl
  | cons m ms ih =>
    rw [List.cons_append, register_cons, ih, register_cons]
    dsimp only
    rw [Report.append_assoc]

/-- It does not matter how mappings are cut into calls. -/
theorem registerEach_eq (r : Registry H D) (mss : List (List (Mapping H))) :
    r.registerEach mss = r.register mss.flatten := by
  induction mss generalizing r with
  | nil => rfl
  | cons ms mss ih => rw [registerEach, List.flatten_cons, register_append, ih]

/-- Mappings of which no two are for one real action can be added in any order and in any number of
calls. -/
theorem registerEach_perm (h : r.WellFormed) {mss mss' : List (List (Mapping H))}
    (hperm : mss.flatten ~ mss'.flatten) (hdistinct : Mapping.Distinct mss.flatten) :
    (r.registerEach mss).1.Agrees (r.registerEach mss').1 ∧
      (r.registerEach mss).2.Reordered (r.registerEach mss').2 := by
  rw [registerEach_eq, registerEach_eq]
  exact register_perm hperm h hdistinct

end Registry

end Switchboard
