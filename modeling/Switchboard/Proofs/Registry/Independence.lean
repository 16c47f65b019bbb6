import Switchboard.Proofs.Registry.Finishing
import Switchboard.Proofs.Registry.Restart

/-!
# Requests for different actions

What becomes of a request is up to the entry of its action, to the dispatcher and, if the action
opens a dialog, to the dialog slot (`Alike.judge`). A step for another action touches another entry
and, of all that actions share, only the slot. So two steps for different actions do not get in each
other's way unless the slot stands between them, and can be taken in either order
(`WellFormed.trigger_comm`, `Coherent.trigger_finish_comm`); and a request can be put off until any
number of such steps have been taken (`Coherent.put_off`).

`unrelated_requests_commute` says when exactly the order matters: of two dialogs that could both be
opened the first one is, and a dialog can be opened only after the one that holds the slot has been
finished.
-/

namespace Switchboard

/-- The entry without the time of its stamp. -/
def Entry.timeless {H : Type} (e : Entry H) : Entry H :=
  { e with runningSince := e.runningSince.map fun _ => 0 }

namespace Registry

variable {H D : Type}

/-- Whether an action has a mapping that opens a dialog. -/
def opensDialog (r : Registry H D) (a : Action) : Bool := (r.flags? a).any (·.dialog)

/-- The registry without the times of its stamps; of each run it is still told whether there is
one. -/
def timeless (r : Registry H D) : Registry H D :=
  { r with entries := r.entries.map (·.timeless) }

/-- Two steps, each of which can be taken at any time, can be taken in either order: each is
answered the same, and but for the times of stamps the registry is the same afterwards. -/
def Commutes (r : Registry H D) (x y : Nat → Step H D) : Prop :=
  ∀ t u t' u', (r.perform (y t')).reply (x u') = r.reply (x t) ∧
    (r.perform (x t)).reply (y u) = r.reply (y t') ∧
    ((r.perform (x t)).perform (y u)).timeless = ((r.perform (y t')).perform (x u')).timeless

/-- A request or a finish that is for another action than a given one, and not for a dialog if that
opens one. -/
def Unrelated (r : Registry H D) (a : Action) : Step H D → Prop
  | .trigger b _ | .finish b => b ≠ a ∧ ¬ (r.opensDialog a = true ∧ r.opensDialog b = true)
  | _ => False

variable {r r' : Registry H D} {a b : Action}

/-! ## What a request looks at -/

/-- Whatever a request for an action looks at is the same in two registries. -/
structure Alike (r r' : Registry H D) (a : Action) : Prop where
  /-- The action has the same entry. -/
  lookup : r'.lookup? a = r.lookup? a
  /-- The registries have the same number. -/
  id : r'.id = r.id
  /-- They are in the same epoch. -/
  epoch : r'.epoch = r.epoch
  /-- The same leads to the UI thread. -/
  dispatcher : r'.dispatcher = r.dispatcher
  /-- The same action holds the dialog slot, if that matters. -/
  slot : r.opensDialog a = true → r'.dialogOwner = r.dialogOwner

/-- A request is judged the same where whatever it looks at is the same. -/
theorem Alike.judge (h : r.Alike r' a) (t u : Nat) : (r'.judge a u).1 = (r.judge a t).1 := by
  rw [judge_fst r a t u]
  unfold Registry.judge
  rw [h.lookup]
  cases he : r.lookup? a with
  | none => rfl
  | some e =>
    have hrefusal : r'.refusal? e = r.refusal? e := by
      unfold refusal?
      rw [h.dispatcher]
      cases hd : e.flags.dialog with
      | false => rfl
      | true => rw [h.slot (by simp [opensDialog, flags?, he, hd])]
    have hissue : r'.issue e = r.issue e := by
      unfold issue
      rw [h.id, h.epoch]
    dsimp only
    rw [hrefusal, hissue, h.dispatcher]
    cases r.refusal? e <;> rfl

/-- A registry is like itself. -/
theorem Alike.refl (r : Registry H D) (a : Action) : r.Alike r a :=
  ⟨rfl, rfl, rfl, rfl, fun _ => rfl⟩

/-- A client learns the same from the request where whatever it looks at is the same. -/
theorem Alike.reply (h : r.Alike r' a) (t u : Nat) :
    r'.reply (.trigger a u) = r.reply (.trigger a t) := by
  show Reply.judged _ _ _ = Reply.judged _ _ _
  rw [h.judge t u]

/-- The same is issued where whatever the request looks at is the same. -/
theorem Alike.accepted? (h : r.Alike r' a) (t u : Nat) :
    r'.accepted? (.trigger a u) = r.accepted? (.trigger a t) := by
  show (r'.judge a u).1.invocation? = (r.judge a t).1.invocation?
  rw [h.judge t u]

/-- A finish is told the same where its action has the same entry and holds the slot as well. -/
theorem finish_fst_congr (hlookup : r'.lookup? b = r.lookup? b)
    (hslot : r'.dialogOwner = some b ↔ r.dialogOwner = some b) :
    (r'.finish b).1 = (r.finish b).1 := by
  have howns : (r'.dialogOwner == some b) = (r.dialogOwner == some b) := by
    rw [Bool.eq_iff_iff, beq_iff_eq, beq_iff_eq, hslot]
  unfold finish release
  simp only [Option.any_none, Bool.false_eq_true, if_false, hlookup]
  cases r.lookup? b with
  | none => rfl
  | some e =>
    dsimp only
    rw [howns]

/-! ## What a step does to other actions -/

/-- A request that is accepted starts the entry of its action and takes the dialog slot for a
dialog, and changes nothing else. -/
theorem WellFormed.perform_trigger_eq (h : r.WellFormed) {t : Nat} {i : Invocation H}
    (hi : r.accepted? (.trigger a t) = some i) :
    r.perform (.trigger a t) = { r with
      entries := r.entries.map fun e => if e.action = a then e.start t else e
      dialogOwner := if i.flags.dialog then some a else r.dialogOwner } := by
  obtain ⟨e, he, hr, rfl⟩ := accepted?_trigger_iff.1 hi
  obtain rfl := h.action_of_lookup? he
  rw [perform_trigger_of_accepted t he hr, Registry.begin, h.updateEntry_eq_map]
  rfl

/-- What a request that is accepted issues opens a dialog exactly if its action does. -/
theorem opensDialog_of_accepted {t : Nat} {i : Invocation H}
    (hi : r.accepted? (.trigger a t) = some i) : r.opensDialog a = i.flags.dialog := by
  obtain ⟨e, he, -, rfl⟩ := accepted?_trigger_iff.1 hi
  simp [opensDialog, flags?, he, issue]

/-- A request leaves the entries of the other actions. -/
theorem WellFormed.lookup?_trigger_of_ne (h : r.WellFormed) (hab : a ≠ b) (u : Nat) :
    (r.perform (.trigger b u)).lookup? a = r.lookup? a := by
  cases hi : r.accepted? (.trigger b u) with
  | none => rw [perform_trigger_of_not_accepted hi]
  | some i =>
    obtain ⟨e, he, hr, -⟩ := accepted?_trigger_iff.1 hi
    rw [perform_trigger_of_accepted u he hr, h.lookup?_begin he, if_neg hab]

/-- A finish leaves the entries of the other actions. -/
theorem WellFormed.lookup?_finish_of_ne (h : r.WellFormed) (hab : a ≠ b) :
    (r.perform (.finish b)).lookup? a = r.lookup? a := by
  show (r.finish b).2.lookup? a = r.lookup? a
  rw [h.lookup?_finish, if_neg hab]

/-- A request leaves the dialog slot, unless it takes it for its action. -/
theorem WellFormed.dialogOwner_trigger_cases (h : r.WellFormed) (b : Action) (u : Nat) :
    (r.perform (.trigger b u)).dialogOwner = r.dialogOwner ∨
      r.opensDialog b = true ∧ r.dialogOwner = none ∧ r.dispatcher.isSome = true ∧
        (r.perform (.trigger b u)).dialogOwner = some b := by
  cases hi : r.accepted? (.trigger b u) with
  | none => exact .inl (by rw [perform_trigger_of_not_accepted hi])
  | some i =>
    rw [h.perform_trigger_eq hi, opensDialog_of_accepted hi]
    cases hd : i.flags.dialog with
    | false => exact .inl rfl
    | true =>
      obtain ⟨e, -, hr, rfl⟩ := accepted?_trigger_iff.1 hi
      obtain ⟨-, hfree, hroute⟩ := (r.refusal?_eq_none_iff e).1 hr
      replace hd : e.flags.dialog = true := hd
      exact .inr ⟨rfl, hfree hd, hroute (by simp [Flags.needsUiThread, hd]), rfl⟩

/-- A request for one action leaves all that a request for another looks at, unless both open
dialogs. -/
theorem WellFormed.alike_trigger (h : r.WellFormed) (hab : a ≠ b)
    (hdialog : ¬ (r.opensDialog a = true ∧ r.opensDialog b = true)) (u : Nat) :
    r.Alike (r.perform (.trigger b u)) a := by
  obtain ⟨es, owner, heq⟩ := r.trigger_eq b u
  refine ⟨h.lookup?_trigger_of_ne hab u, by rw [heq], by rw [heq], by rw [heq], fun ha => ?_⟩
  rcases h.dialogOwner_trigger_cases b u with hsame | ⟨hb, -⟩
  · exact hsame
  · exact absurd ⟨ha, hb⟩ hdialog

/-- A finish of one action leaves all that a request for another looks at, unless it gives back the
slot and the other opens a dialog. -/
theorem Coherent.alike_finish (h : r.Coherent) (hab : a ≠ b)
    (hslot : ¬ (r.opensDialog a = true ∧ r.dialogOwner = some b)) :
    r.Alike (r.perform (.finish b)) a := by
  have hfinish : r.perform (.finish b) = _ := h.finish_eq b
  refine ⟨h.lookup?_finish_of_ne hab, by rw [hfinish], by rw [hfinish], by rw [hfinish],
    fun ha => ?_⟩
  rw [hfinish]
  exact if_neg fun hb => hslot ⟨ha, hb⟩

/-- A request for one action leaves what the finish of another is told. -/
theorem WellFormed.finish_trigger (h : r.WellFormed) (hab : a ≠ b) (t : Nat) :
    ((r.perform (.trigger a t)).finish b).1 = (r.finish b).1 := by
  refine finish_fst_congr (h.lookup?_trigger_of_ne hab.symm t) ?_
  rcases h.dialogOwner_trigger_cases a t with hsame | ⟨-, hfree, -, htaken⟩
  · rw [hsame]
  · simp [hfree, htaken, hab]

/-! ## Two steps in either order -/

/-- Changes of the entries of two actions can be made in either order. -/
theorem map_change_comm {f g : Entry H → Entry H} (hf : ∀ e, (f e).action = e.action)
    (hg : ∀ e, (g e).action = e.action) (hab : a ≠ b) (es : List (Entry H)) :
    ((es.map fun e => if e.action = a then f e else e).map
        fun e => if e.action = b then g e else e) =
      (es.map fun e => if e.action = b then g e else e).map
        fun e => if e.action = a then f e else e := by
  rw [List.map_map, List.map_map]
  refine List.map_congr_left fun e _ => ?_
  by_cases ha : e.action = a
  · simp [ha, hf, hab]
  · by_cases hb : e.action = b
    · simp [hb, hg, hab.symm]
    · simp [ha, hb]

/-- Requests for two actions, not both of which open dialogs, can be made in either order. -/
theorem WellFormed.trigger_comm (h : r.WellFormed) (hab : a ≠ b)
    (hdialog : ¬ (r.opensDialog a = true ∧ r.opensDialog b = true)) (t u : Nat) :
    (r.perform (.trigger a t)).perform (.trigger b u) =
      (r.perform (.trigger b u)).perform (.trigger a t) := by
  -- Each is accepted in either order or in neither; what two accepted requests change is left.
  have ha := (h.alike_trigger hab hdialog u).accepted? t t
  have hb := (h.alike_trigger hab.symm (fun hd => hdialog hd.symm) t).accepted? u u
  cases hi : r.accepted? (.trigger a t) with
  | none => rw [perform_trigger_of_not_accepted hi, perform_trigger_of_not_accepted (ha.trans hi)]
  | some i =>
    cases hj : r.accepted? (.trigger b u) with
    | none => rw [perform_trigger_of_not_accepted hj, perform_trigger_of_not_accepted (hb.trans hj)]
    | some j =>
      rw [opensDialog_of_accepted hi, opensDialog_of_accepted hj] at hdialog
      have hslot : (if j.flags.dialog = true then some b
            else if i.flags.dialog = true then some a else r.dialogOwner) =
          if i.flags.dialog = true then some a
            else if j.flags.dialog = true then some b else r.dialogOwner := by
        cases hid : i.flags.dialog <;> cases hjd : j.flags.dialog <;> simp_all
      rw [(h.perform _).perform_trigger_eq (hb.trans hj),
        (h.perform _).perform_trigger_eq (ha.trans hi),
        h.perform_trigger_eq hi, h.perform_trigger_eq hj]
      dsimp only
      rw [hslot, map_change_comm (f := (·.start t)) (g := (·.start u)) (fun _ => rfl)
        (fun _ => rfl) hab]

/-- A request for an action and a finish of another can be made in either order, unless the finish
gives back the slot and the request is for a dialog. -/
theorem Coherent.trigger_finish_comm (h : r.Coherent) (hab : a ≠ b)
    (hslot : ¬ (r.opensDialog a = true ∧ r.dialogOwner = some b)) (t : Nat) :
    (r.perform (.trigger a t)).perform (.finish b) =
      (r.perform (.finish b)).perform (.trigger a t) := by
  have ha := (h.alike_finish hab hslot).accepted? t t
  cases hi : r.accepted? (.trigger a t) with
  | none => rw [perform_trigger_of_not_accepted hi, perform_trigger_of_not_accepted (ha.trans hi)]
  | some i =>
    have hfinish : r.perform (.finish b) = _ := h.finish_eq b
    have hfinish' : (r.perform (.trigger a t)).perform (.finish b) = _ :=
      (h.perform (.trigger a t)).finish_eq b
    rw [opensDialog_of_accepted hi] at hslot
    have howner : (if (if i.flags.dialog = true then some a else r.dialogOwner) = some b then none
          else if i.flags.dialog = true then some a else r.dialogOwner) =
        if i.flags.dialog = true then some a
          else if r.dialogOwner = some b then none else r.dialogOwner := by
      cases hid : i.flags.dialog <;> simp [hab]
    rw [(h.perform _).perform_trigger_eq (ha.trans hi), hfinish', hfinish, h.perform_trigger_eq hi]
    dsimp only
    rw [howner, map_change_comm (f := (·.start t)) (g := (·.stop)) (fun _ => rfl)
      (fun _ => rfl) hab]

/-! ## A request that is put off -/

/-- Requests and finishes leave the flags of every action. -/
theorem WellFormed.flags?_trigger (h : r.WellFormed) (a : Action) (t : Nat) (c : Action) :
    (r.perform (.trigger a t)).flags? c = r.flags? c := by
  cases hi : r.accepted? (.trigger a t) with
  | none => rw [perform_trigger_of_not_accepted hi]
  | some i =>
    obtain ⟨e, he, hr, -⟩ := accepted?_trigger_iff.1 hi
    unfold flags?
    rw [perform_trigger_of_accepted t he hr, h.lookup?_begin he]
    split_ifs with hc
    · rw [hc, he]
      rfl
    · rfl

/-- A finish leaves the flags of every action. -/
theorem WellFormed.flags?_finish (h : r.WellFormed) (b c : Action) :
    (r.perform (.finish b)).flags? c = r.flags? c := by
  show ((r.finish b).2.lookup? c).map (·.flags) = (r.lookup? c).map (·.flags)
  rw [h.lookup?_finish]
  split_ifs
  · rw [Option.map_map]
    rfl
  · rfl

namespace Coherent

/-- An action that opens no dialog does not hold the dialog slot. -/
theorem opensDialog_of_owner (h : r.Coherent) (hb : r.dialogOwner = some b) :
    r.opensDialog b = true := by
  obtain ⟨f, hf, hd⟩ := h.dialog_of_owner hb
  simp [opensDialog, hf, hd]

/-- A request is answered the same after a step that is unrelated to its action, and leads to the
same registry before and after. -/
theorem put_off_one (h : r.Coherent) {s : Step H D} (hs : r.Unrelated a s) (t u : Nat) :
    (r.perform s).reply (.trigger a u) = r.reply (.trigger a t) ∧
      (r.perform s).perform (.trigger a t) = (r.perform (.trigger a t)).perform s := by
  cases s with
  | trigger b v =>
    obtain ⟨hne, hdialog⟩ := hs
    exact ⟨(h.alike_trigger hne.symm hdialog v).reply t u,
      (h.trigger_comm hne.symm hdialog t v).symm⟩
  | finish b =>
    obtain ⟨hne, hdialog⟩ := hs
    have hslot : ¬ (r.opensDialog a = true ∧ r.dialogOwner = some b) :=
      fun hslot => hdialog ⟨hslot.1, h.opensDialog_of_owner hslot.2⟩
    exact ⟨(h.alike_finish hne.symm hslot).reply t u, (h.trigger_finish_comm hne.symm hslot t).symm⟩
  | _ => exact hs.elim

/-- What is unrelated to an action stays so after a step that is. -/
theorem unrelated_perform (h : r.Coherent) {s : Step H D} (hs : r.Unrelated a s) {x : Step H D}
    (hx : r.Unrelated a x) : (r.perform s).Unrelated a x := by
  have hflags : (r.perform s).opensDialog = r.opensDialog := by
    funext c
    unfold opensDialog
    cases s with
    | trigger b u => rw [h.flags?_trigger]
    | finish b => rw [h.flags?_finish]
    | _ => exact hs.elim
  cases x with
  | trigger b u => simpa only [Unrelated, hflags] using hx
  | finish b => simpa only [Unrelated, hflags] using hx
  | _ => exact hx

/-- A request can be put off until any number of steps have been taken that are unrelated to its
action: it is answered the same then, and the registry is the same in the end. -/
theorem put_off (h : r.Coherent) {steps : List (Step H D)} (hsteps : ∀ s ∈ steps, r.Unrelated a s)
    (t u : Nat) :
    (r.run steps).reply (.trigger a u) = r.reply (.trigger a t) ∧
      (r.run steps).perform (.trigger a t) = (r.perform (.trigger a t)).run steps := by
  induction steps generalizing r with
  | nil => exact ⟨(Alike.refl r a).reply t u, rfl⟩
  | cons s steps ih =>
    -- The request goes behind one step at a time, and the others stay unrelated to it.
    have hs := hsteps s List.mem_cons_self
    obtain ⟨hreply, hcomm⟩ := h.put_off_one hs t t
    obtain ⟨hreplies, hrest⟩ := ih (h.perform s) fun x hx =>
      h.unrelated_perform hs (hsteps x (List.mem_cons_of_mem s hx))
    refine ⟨hreplies.trans hreply, ?_⟩
    rw [run_cons, run_cons, hrest, hcomm]

end Coherent

/-! ## Times of stamps -/

/-- Times of stamps aside, the entries are those of before. -/
theorem lookup?_timeless (r : Registry H D) (a : Action) :
    r.timeless.lookup? a = (r.lookup? a).map (·.timeless) := by
  unfold lookup? timeless
  dsimp only
  cases r.index.get a <;> simp

/-- The times of stamps can be left out before an entry and the dialog slot are changed. -/
theorem timeless_change (r : Registry H D) (a : Action) (owner : Option Action)
    {f g : Entry H → Entry H} (hfg : ∀ e, (f e).timeless = g e.timeless) :
    timeless { r.updateEntry a f with dialogOwner := owner } =
      { r.timeless.updateEntry a g with dialogOwner := owner } := by
  unfold updateEntry timeless
  dsimp only
  cases r.index.get a with
  | none => rfl
  | some i =>
    have hentries : (r.entries.modify i f).map (·.timeless) =
        (r.entries.map (·.timeless)).modify i g := by
      refine List.ext_getElem? fun j => ?_
      simp only [List.getElem?_map, List.getElem?_modify]
      cases r.entries[j]? with
      | none => rfl
      | some e => split <;> simp [hfg]
    dsimp only
    rw [hentries]

/-- When a request is made shows in nothing but stamps. -/
theorem timeless_trigger (r : Registry H D) (a : Action) (t : Nat) :
    (r.perform (.trigger a t)).timeless = r.timeless.perform (.trigger a 0) := by
  have hstart : ∀ e : Entry H, (e.start t).timeless = e.timeless.start 0 := by
    intro e
    unfold Entry.start Entry.timeless
    cases e.flags.needsFinish <;> simp
  show (r.judge a t).2.timeless = (r.timeless.judge a 0).2
  unfold judge
  rw [lookup?_timeless]
  cases r.lookup? a with
  | none => rfl
  | some e =>
    have hrefusal : r.timeless.refusal? e.timeless = r.refusal? e := rfl
    dsimp only [Option.map_some]
    rw [hrefusal]
    cases r.refusal? e with
    | some why => rfl
    | none => exact timeless_change r e.action _ hstart

/-- The times of stamps have no part in a finish. -/
theorem timeless_finish (r : Registry H D) (b : Action) :
    (r.perform (.finish b)).timeless = r.timeless.perform (.finish b) := by
  show (r.release b none).2.timeless = (r.timeless.release b none).2
  unfold release
  rw [lookup?_timeless]
  cases r.lookup? b with
  | none => rfl
  | some e => exact timeless_change r b _ fun _ => rfl

/-! ## What commutes, and what does not -/

namespace Coherent

/-- Requests for two actions commute unless both open dialogs. -/
theorem commutes_triggers (h : r.Coherent) (hab : a ≠ b)
    (hdialog : ¬ (r.opensDialog a = true ∧ r.opensDialog b = true)) :
    r.Commutes (.trigger a) (.trigger b) := by
  intro t u t' u'
  refine ⟨(h.alike_trigger hab hdialog t').reply t u',
    (h.alike_trigger hab.symm (fun hd => hdialog hd.symm) t).reply t' u, ?_⟩
  -- The four times are four different ones; without stamps the requests may share theirs.
  calc ((r.perform (.trigger a t)).perform (.trigger b u)).timeless
      = (r.timeless.perform (.trigger a 0)).perform (.trigger b 0) := by
        rw [timeless_trigger, timeless_trigger]
    _ = ((r.perform (.trigger a u')).perform (.trigger b t')).timeless := by
        rw [timeless_trigger, timeless_trigger]
    _ = ((r.perform (.trigger b t')).perform (.trigger a u')).timeless := by
        rw [h.trigger_comm hab hdialog]

/-- A request commutes with the finish of another action unless that gives back the slot which the
request has to find free. -/
theorem commutes_trigger_finish (h : r.Coherent) (hab : a ≠ b)
    (hslot : ¬ (r.opensDialog a = true ∧ r.dialogOwner = some b)) :
    r.Commutes (.trigger a) fun _ => .finish b := by
  intro t u t' u'
  refine ⟨(h.alike_finish hab hslot).reply t u',
    congrArg Reply.released (h.finish_trigger hab t), ?_⟩
  -- The time of the request shows in nothing but stamps, so the other order may take another.
  calc ((r.perform (.trigger a t)).perform (.finish b)).timeless
      = (r.timeless.perform (.trigger a 0)).perform (.finish b) := by
        rw [timeless_finish, timeless_trigger]
    _ = ((r.perform (.trigger a u')).perform (.finish b)).timeless := by
        rw [timeless_finish, timeless_trigger]
    _ = ((r.perform (.finish b)).perform (.trigger a u')).timeless := by
        rw [h.trigger_finish_comm hab hslot]

/-- A request for a dialog is accepted exactly while the dialog slot is free and something leads to
the UI thread. -/
theorem isAccepted_dialog_iff (h : r.Coherent) (ha : r.opensDialog a = true) (t : Nat) :
    (r.judge a t).1.outcome.isAccepted = true ↔
      r.dialogOwner = none ∧ r.hasDispatcher = true := by
  obtain ⟨e, he, hd⟩ : ∃ e, r.lookup? a = some e ∧ e.flags.dialog = true := by
    simpa [opensDialog, flags?, Option.any_eq_true] using ha
  have hui : e.flags.needsUiThread = true := by simp [Flags.needsUiThread, hd]
  constructor
  · intro hacc
    rw [Admission.isAccepted_outcome, Option.isSome_iff_exists] at hacc
    obtain ⟨i, hi⟩ := hacc
    obtain ⟨e', he', hr, -⟩ := accepted?_trigger_iff.1 hi
    obtain rfl := Option.some.inj (he.symm.trans he')
    obtain ⟨-, hfree, hroute⟩ := (r.refusal?_eq_none_iff e).1 hr
    exact ⟨hfree hd, hroute hui⟩
  · rintro ⟨hfree, hroute⟩
    have hidle : e.busy = false := by
      rw [h.busy_eq a e he, h.idle_of_slot_free he hd hfree]
      simp
    exact (isAccepted_judge_of_free he hidle hfree t).2 fun _ => hroute

end Coherent

/-- While a request is refused it leaves the registry as it is. -/
theorem perform_trigger_of_not_isAccepted {t : Nat}
    (hno : ¬ (r.judge a t).1.outcome.isAccepted = true) : r.perform (.trigger a t) = r := by
  rw [Admission.isAccepted_outcome, Bool.not_eq_true, Option.isSome_eq_false_iff,
    Option.isNone_iff_eq_none] at hno
  exact perform_trigger_of_not_accepted hno

/-! ## The dialog slot and the dispatcher -/

namespace Coherent

/-- A release takes nothing into the dialog slot. -/
theorem isSome_dialogOwner_release (h : r.Coherent) {epoch : Option Nat}
    (ho : (r.release a epoch).2.dialogOwner.isSome = true) : r.dialogOwner.isSome = true := by
  rw [h.dialogOwner_release] at ho
  split_ifs at ho with hreleased
  · simp at ho
  · exact ho

/-- If something leads to the UI thread while the dialog slot is taken, that is so after a step. -/
theorem isSome_dispatcher_of_owner_perform (h : r.Coherent)
    (hr : r.dialogOwner.isSome = true → r.dispatcher.isSome = true) (s : Step H D) :
    (r.perform s).dialogOwner.isSome = true → (r.perform s).dispatcher.isSome = true := by
  intro ho
  -- Only emptying the table takes the dispatcher away, and that frees the slot as well.
  by_cases hs : s = .shutdown
  · subst hs
    exact absurd ho Bool.false_ne_true
  · refine isSome_dispatcher_perform hs ?_
    cases s with
    | register ms =>
      obtain ⟨-, -, howner, -⟩ := enrolWhere_frame r (fun _ => true) ms
      exact hr (howner ▸ ho)
    | setDispatcher d => exact hr ho
    | trigger a t =>
      rcases h.dialogOwner_trigger_cases a t with hsame | ⟨-, -, hroute, -⟩
      · exact hr (hsame ▸ ho)
      · exact hroute
    | finish b => exact hr (h.isSome_dialogOwner_release ho)
    | finishInvocation i => exact hr (h.isSome_dialogOwner_release ho)
    | shutdown => exact absurd rfl hs

/-- If something leads to the UI thread while the dialog slot is taken, that is so after a run. -/
theorem isSome_dispatcher_of_owner_run (h : r.Coherent)
    (hr : r.dialogOwner.isSome = true → r.dispatcher.isSome = true) (steps : List (Step H D)) :
    (r.run steps).dialogOwner.isSome = true → (r.run steps).dispatcher.isSome = true := by
  induction steps generalizing r with
  | nil => exact hr
  | cons s steps ih => exact ih (h.perform s) (h.isSome_dispatcher_of_owner_perform hr s)

/-! ## When the order matters -/

/-- Requests for two actions commute unless both open dialogs and could be accepted. -/
theorem commutes_triggers_iff (h : r.Coherent) (hab : a ≠ b) :
    r.Commutes (.trigger a) (.trigger b) ↔
      ¬ (r.opensDialog a = true ∧ r.opensDialog b = true ∧ r.dialogOwner = none ∧
        r.hasDispatcher = true) := by
  constructor
  · rintro hcommutes ⟨ha, hb, hready⟩
    have hb' : (r.perform (.trigger a 0)).opensDialog b = true := by
      unfold opensDialog
      rw [h.flags?_trigger]
      exact hb
    -- The request that is made first is accepted, and then the slot is taken.
    have houtcome := (Reply.judged.inj (hcommutes 0 0 0 0).2.1).1
    have hacc := (h.isAccepted_dialog_iff hb 0).2 hready
    rw [← houtcome, (h.perform _).isAccepted_dialog_iff hb'] at hacc
    have hfirst := (h.isAccepted_dialog_iff ha 0).2 hready
    rw [Admission.isAccepted_outcome, Option.isSome_iff_exists] at hfirst
    obtain ⟨i, hi⟩ := hfirst
    replace hi : r.accepted? (.trigger a 0) = some i := hi
    rw [h.perform_trigger_eq hi, ← opensDialog_of_accepted hi, ha] at hacc
    simp at hacc
  · intro hnot
    by_cases hdialog : r.opensDialog a = true ∧ r.opensDialog b = true
    · -- Both requests are refused, whichever is made first.
      obtain ⟨ha, hb⟩ := hdialog
      have hrefused : ∀ c, r.opensDialog c = true → ∀ t, r.perform (.trigger c t) = r :=
        fun c hc t => perform_trigger_of_not_isAccepted fun hacc =>
          hnot ⟨ha, hb, (h.isAccepted_dialog_iff hc t).1 hacc⟩
      intro t u t' u'
      rw [hrefused a ha t, hrefused b hb t', hrefused b hb u, hrefused a ha u']
      exact ⟨(Alike.refl r a).reply t u', (Alike.refl r b).reply t' u, rfl⟩
    · exact h.commutes_triggers hab hdialog

/-- A request for an action commutes with the finish of another unless that holds the dialog slot
and the request is for a dialog. -/
theorem commutes_trigger_finish_iff (h : r.Coherent)
    (hr : r.dialogOwner.isSome = true → r.dispatcher.isSome = true) (hab : a ≠ b) :
    (r.Commutes (.trigger a) fun _ => .finish b) ↔
      ¬ (r.opensDialog a = true ∧ r.dialogOwner = some b) := by
  refine ⟨?_, h.commutes_trigger_finish hab⟩
  rintro hcommutes ⟨ha, hb⟩
  have ha' : (r.perform (.finish b)).opensDialog a = true := by
    unfold opensDialog
    rw [h.flags?_finish]
    exact ha
  have hfinish : r.perform (.finish b) = _ := h.finish_eq b
  have hready : (r.perform (.finish b)).dialogOwner = none ∧
      (r.perform (.finish b)).hasDispatcher = true := by
    rw [hfinish]
    exact ⟨if_pos hb, hr (by rw [hb]; rfl)⟩
  -- The request is accepted after the finish, and refused before.
  have houtcome := (Reply.judged.inj (hcommutes 0 0 0 0).1).1
  have hacc := ((h.perform (.finish b)).isAccepted_dialog_iff ha' 0).2 hready
  rw [houtcome, h.isAccepted_dialog_iff ha, hb] at hacc
  simp at hacc

end Coherent

/-- Requests for different actions are independent, but for the dialog slot. In every state that a
new registry can get into, for two different actions: requests for them, made at any times, are each
answered the same in either order and lead to the same registry but for the times of stamps, unless
both open dialogs, of which the first request would open one; and so do a request for the one and a
finish of the other, unless that gives back the slot which the request has to find free. So a
request can be put off until others have made any number of requests and finishes of other actions,
of which none opens a dialog if it is for one itself: it is answered the same, and the registry is
the same in the end. -/
theorem unrelated_requests_commute (id capacity : Nat) (steps : List (Step H D)) (a b : Action)
    (hab : a ≠ b) :
    let r : Registry H D := (new id capacity).run steps
    (r.Commutes (.trigger a) (.trigger b) ↔
        ¬ (r.opensDialog a = true ∧ r.opensDialog b = true ∧ r.dialogOwner = none ∧
          r.hasDispatcher = true)) ∧
      ((r.Commutes (.trigger a) fun _ => .finish b) ↔
        ¬ (r.opensDialog a = true ∧ r.dialogOwner = some b)) ∧
      ∀ others : List (Step H D), (∀ s ∈ others, r.Unrelated a s) → ∀ t u,
        (r.run others).reply (.trigger a u) = r.reply (.trigger a t) ∧
          (r.run others).perform (.trigger a t) = (r.perform (.trigger a t)).run others := by
  intro r
  have h : r.Coherent := (coherent_new id capacity).run steps
  have hserved : r.dialogOwner.isSome = true → r.dispatcher.isSome = true :=
    (coherent_new id capacity).isSome_dispatcher_of_owner_run
      (fun ho => absurd ho Bool.false_ne_true) steps
  exact ⟨h.commutes_triggers_iff hab, h.commutes_trigger_finish_iff hserved hab,
    fun others hothers => h.put_off hothers⟩

/-- A registry with a soft reset and two dialogs, none of which is in flight. -/
def atRest : List (Step Unit Unit) :=
  [.register [softReset, dialogFor .quit, dialogFor .aboutDialog], .setDispatcher ()]

/-- The soft reset and the quit dialog can be requested in either order, the two dialogs cannot, and
while the quit dialog is open the about dialog has to wait until it has been finished. -/
theorem dialogs_wait_for_one_another :
    let r : Registry Unit Unit := (new 0 3).run atRest
    let r' : Registry Unit Unit := (new 0 3).run (atRest ++ [.trigger .quit 0])
    r.Commutes (.trigger .resetSoft) (.trigger .quit) ∧
      ¬ r.Commutes (.trigger .quit) (.trigger .aboutDialog) ∧
      (r'.Commutes (.trigger .resetSoft) fun _ => .finish .quit) ∧
      ¬ r'.Commutes (.trigger .aboutDialog) fun _ => .finish .quit := by
  intro r r'
  obtain ⟨hreset, -⟩ := unrelated_requests_commute 0 3 atRest .resetSoft .quit (by decide)
  obtain ⟨hdialogs, -⟩ := unrelated_requests_commute 0 3 atRest .quit .aboutDialog (by decide)
  obtain ⟨-, hreset', -⟩ := unrelated_requests_commute 0 3 (atRest ++ [.trigger .quit 0])
    .resetSoft .quit (by decide)
  obtain ⟨-, hdialogs', -⟩ := unrelated_requests_commute 0 3 (atRest ++ [.trigger .quit 0])
    .aboutDialog .quit (by decide)
  exact ⟨hreset.2 (by decide), hdialogs.not.2 (by decide), hreset'.2 (by decide),
    hdialogs'.not.2 (by decide)⟩

end Registry

end Switchboard
