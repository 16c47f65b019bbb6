import Mathlib.Data.List.Induction
import Switchboard.Proofs.Frontend.Warnings
import Switchboard.Proofs.Registry.Exclusion
import Switchboard.Proofs.Watchdog.Patrol

/-!
# Which checks tell of an episode

A watchdog keeps one flag for each action and knows nothing of episodes. A check sees the actions
with an episode that is overdue (`mem_stalled_iff`), the flags are what the last check saw
(`reported_iff`), and so a check tells of an action exactly if it has an overdue episode now and had
none at the last check (`mem_told_iff`). That is the first check at which the episode is overdue,
unless it is hidden by an earlier one: if an episode of the action was overdue at the last check and
ended since, the watchdog takes the new episode for the old one (`first_overdue_check_tells_iff`,
`renewed_episode_is_missed`).
-/

namespace Switchboard

/-- The last check among the events of a list comes right after those of `seen`. -/
def Patrol.LastCheck {H D : Type} (events seen : List (Patrol.Event H D)) : Prop :=
  ∃ since, events = seen ++ .check :: since ∧ .check ∉ since

/-- An episode that begins after the events of `before` and is still going on after those of
`during` is hidden by an earlier one: no check took place in it yet, and the last check before it
saw an episode of the action overdue. -/
def Patrol.Hidden {H D : Type} (p : Patrol H D) (before : List (Patrol.Event H D)) (a : Action)
    (during : List (Patrol.Event H D)) : Prop :=
  .check ∉ during ∧ ∃ seen, Patrol.LastCheck before seen ∧ p.Overdue seen a

namespace Patrol

variable {H D : Type} {p : Patrol H D}

/-! ## Stamps and episodes -/

/-- An episode begins with a request that is accepted for an action that has to be finished. -/
theorem Episode.of_accepted {before : List (Event H D)} {a : Action} {i : Invocation H}
    (hi : (p.run before).registry.accepted? (.trigger a (p.run before).now) = some i)
    (hf : i.flags.needsFinish = true) : p.Episode before a [] :=
  ⟨⟨i, hi, hf⟩, not_false⟩

/-- An episode goes on through an event that does not end the run. -/
theorem Episode.concat {before during : List (Event H D)} {a : Action} {x : Event H D}
    (h : p.Episode before a during)
    (hx : ∀ s, (p.run (before ++ .trigger a :: during)).step? x = some s →
      ¬ (p.run (before ++ .trigger a :: during)).registry.EndsRun a s) :
    p.Episode before a (during ++ [x]) := by
  rw [run_append, run_cons] at hx
  refine ⟨h.begins, fun hfree => ?_⟩
  rcases (frees_append _ _ _ _).1 hfree with hfree | hfree
  · exact h.goesOn hfree
  · obtain ⟨s, hs, hends⟩ := (frees_singleton _ _ _).1 hfree
    exact hx s hs hends

/-- What began an episode went on through every part of it. -/
theorem Episode.of_append {before m₁ m₂ : List (Event H D)} {a : Action}
    (h : p.Episode before a (m₁ ++ m₂)) : p.Episode before a m₁ :=
  ⟨h.begins, fun hfree => h.goesOn ((frees_append _ _ _ _).2 (.inl hfree))⟩

/-- An episode has the stamp of its request. -/
theorem Episode.runningSince? {before during : List (Event H D)} {a : Action}
    (hc : p.registry.Coherent) (h : p.Episode before a during) :
    (p.run (before ++ .trigger a :: during)).registry.runningSince? a =
      some (p.run before).now := by
  obtain ⟨i, hi, hf⟩ := h.begins
  have hbefore := coherent_run hc before
  rw [run_append, run_cons, registry_run]
  exact (hbefore.perform _).runningSince?_run (hbefore.runningSince?_trigger hi hf) h.goesOn

/-- The stamps of the registry are those of the episodes. -/
theorem runningSince?_iff (hc : p.registry.Coherent) {a : Action}
    (hidle : p.registry.runningSince? a = none) {events : List (Event H D)} {since : Nat} :
    (p.run events).registry.runningSince? a = some since ↔
      ∃ before during, events = before ++ .trigger a :: during ∧ p.Episode before a during ∧
        (p.run before).now = since := by
  refine ⟨fun h => ?_, ?_⟩
  · induction events using List.reverseRecOn with
    | nil => simp [hidle] at h
    | append_singleton events x ih =>
      -- The episode that there was before the event goes on if the event left the stamp.
      have hgoesOn : (p.run events).registry.runningSince? a = some since →
          (∀ s, (p.run events).step? x = some s → ¬ (p.run events).registry.EndsRun a s) →
          ∃ before during, events ++ [x] = before ++ .trigger a :: during ∧
            p.Episode before a during ∧ (p.run before).now = since := by
        intro hsince hx
        obtain ⟨before, during, rfl, hepisode, hnow⟩ := ih hsince
        exact ⟨before, during ++ [x], by simp, hepisode.concat hx, hnow⟩
      have hreg : (p.run (events ++ [x])).registry =
          ((p.run events).step? x).elim (p.run events).registry (p.run events).registry.perform := by
        rw [run_concat]
        rfl
      rw [hreg] at h
      cases hstep : (p.run events).step? x with
      | none => exact hgoesOn (by simpa [hstep] using h) (by simp [hstep])
      | some s =>
        rw [hstep, Option.elim_some] at h
        rcases (coherent_run hc events).runningSince?_perform a s with
          ⟨now, i, rfl, hi, hf, -, h'⟩ | ⟨-, h'⟩ | ⟨hends, -, h'⟩
        · -- Only a request is a step of the registry that requests.
          have hx : x = .trigger a ∧ (p.run events).now = now := by
            cases x <;> simp_all [step?]
          obtain ⟨rfl, rfl⟩ := hx
          exact ⟨events, [], rfl, .of_accepted hi hf, Option.some.inj (h'.symm.trans h)⟩
        · simp [h'] at h
        · exact hgoesOn (h' ▸ h) fun s' hs' => by
            obtain rfl := Option.some.inj (hstep.symm.trans hs')
            exact hends
  · rintro ⟨before, during, rfl, hepisode, rfl⟩
    exact hepisode.runningSince? hc

/-- An action is overdue exactly if its stamp is as old as the threshold. -/
theorem overdue_iff (hc : p.registry.Coherent) {a : Action}
    (hidle : p.registry.runningSince? a = none) {events : List (Event H D)} :
    p.Overdue events a ↔ ∃ since, (p.run events).registry.runningSince? a = some since ∧
      p.watchdog.threshold ≤ (p.run events).now - since := by
  constructor
  · rintro ⟨before, during, rfl, hepisode, hage⟩
    exact ⟨_, hepisode.runningSince? hc, hage⟩
  · rintro ⟨since, hsince, hage⟩
    obtain ⟨before, during, rfl, hepisode, rfl⟩ := (runningSince?_iff hc hidle).1 hsince
    exact ⟨before, during, rfl, hepisode, hage⟩

/-- While an episode goes on, the action is overdue exactly if that episode is. -/
theorem Episode.overdue_iff (hc : p.registry.Coherent) {before during : List (Event H D)}
    {a : Action} (h : p.Episode before a during) :
    p.Overdue (before ++ .trigger a :: during) a ↔ p.watchdog.threshold ≤ p.age before a during := by
  refine ⟨?_, fun hage => ⟨before, during, rfl, h, hage⟩⟩
  rintro ⟨before', during', hevents, h', hage⟩
  -- Two episodes that go on at the same time have the same stamp, so the same age.
  have hsame := h'.runningSince? hc
  rw [← hevents, h.runningSince? hc] at hsame
  rw [age, ← hevents, ← Option.some.inj hsame] at hage
  exact hage

/-- An episode grows older. -/
theorem age_le_append (p : Patrol H D) (before : List (Event H D)) (a : Action)
    (m₁ m₂ : List (Event H D)) : p.age before a m₁ ≤ p.age before a (m₁ ++ m₂) := by
  have hnow : (p.run (before ++ .trigger a :: m₁)).now ≤
      (p.run (before ++ .trigger a :: (m₁ ++ m₂))).now := by
    rw [← List.cons_append, ← List.append_assoc, run_append p (before ++ _)]
    exact now_le_run _ _
  exact Nat.sub_le_sub_right hnow _

/-! ## The last check -/

/-- The last check comes last if there is none after it. -/
theorem lastCheck_check_append {before since seen : List (Event H D)} (hs : .check ∉ since) :
    LastCheck (before ++ .check :: since) seen ↔ seen = before := by
  constructor
  · rintro ⟨since', h, hs'⟩
    -- Two ways to split a list at a check meet in one of them, and no check is behind either.
    rcases List.append_eq_append_iff.1 h with ⟨as, rfl, h⟩ | ⟨as, rfl, h⟩ <;> cases as with
    | nil => simp
    | cons x as => simp_all
  · rintro rfl
    exact ⟨since, rfl, hs⟩

/-- Events without a check leave the last check the last. -/
theorem lastCheck_append {before since seen : List (Event H D)} (hs : .check ∉ since) :
    LastCheck (before ++ since) seen ↔ LastCheck before seen := by
  constructor
  · rintro ⟨since', h, hs'⟩
    rcases List.append_eq_append_iff.1 h with ⟨as, rfl, hsplit⟩ | ⟨as, rfl, hsplit⟩
    · exact absurd (by simp [hsplit]) hs
    · cases as with
      | nil =>
        obtain rfl : .check :: since' = since := hsplit
        simp at hs
      | cons x as =>
        obtain ⟨rfl, rfl⟩ := List.cons.inj hsplit
        exact ⟨as, rfl, fun hmem => hs' (List.mem_append_left _ hmem)⟩
  · rintro ⟨since', rfl, hs'⟩
    exact ⟨since' ++ since, by simp, by simp [hs, hs']⟩

/-- Without a check there is nothing to be said of every check. -/
theorem forall_split_of_not_mem {during : List (Event H D)} {P : List (Event H D) → Prop}
    (h : .check ∉ during) : ∀ m₁ m₂, during = m₁ ++ .check :: m₂ → P m₁ := by
  rintro m₁ m₂ rfl
  simp at h

/-- If there is a check, there is a last one. -/
theorem exists_lastCheck {events : List (Event H D)} (h : .check ∈ events) :
    ∃ seen, LastCheck events seen := by
  obtain ⟨since, seen, hrev, hs⟩ := List.eq_append_cons_of_mem (List.mem_reverse.2 h)
  refine ⟨seen.reverse, since.reverse, ?_, by simpa using hs⟩
  simpa using congrArg List.reverse hrev

/-! ## What a check sees and tells -/

section

variable (hc : p.registry.Coherent) (hidle : ∀ a, p.registry.runningSince? a = none)
include hc hidle

/-- A check sees the actions that are overdue. -/
theorem mem_stalled_iff {events : List (Event H D)} {a : Action} :
    a ∈ ((p.run events).registry.stalled p.watchdog.threshold (p.run events).now).map (·.action) ↔
      p.Overdue events a := by
  rw [overdue_iff hc (hidle a), (coherent_run hc events).action_mem_stalled_iff]

/-- The flags of the watchdog are what the last check saw. -/
theorem reported_iff (hon : p.watchdog.threshold ≠ 0) (hnew : ∀ a, p.watchdog.reported.get a = false)
    {events : List (Event H D)} {a : Action} :
    (p.run events).watchdog.reported.get a = true ↔
      ∃ seen, LastCheck events seen ∧ p.Overdue seen a := by
  induction events using List.reverseRecOn with
  | nil => simp [hnew, LastCheck]
  | append_singleton events x ih =>
    by_cases hx : x = .check
    · subst hx
      -- After a check the last one is that one, and the flags are what it saw.
      have hlast : ∀ seen, LastCheck (events ++ [.check]) seen ↔ seen = events := fun seen =>
        lastCheck_check_append (by simp)
      have hsaw := remembers_perform_check ((threshold_run p events).trans_ne hon) a
      rw [sample, threshold_run, mem_stalled_iff hc hidle] at hsaw
      rw [run_concat, hsaw]
      simp only [hlast, exists_eq_left]
    -- Anything else leaves both the flags and the last check.
    · have hkeep : (p.run (events ++ [x])).watchdog = (p.run events).watchdog := by
        rw [run_concat]
        cases x <;> first | rfl | exact absurd rfl hx
      have hlast : ∀ seen, LastCheck (events ++ [x]) seen ↔ LastCheck events seen := fun seen =>
        lastCheck_append (by simpa using Ne.symm hx)
      simp only [hkeep, hlast, ih]

/-- A check tells of the actions that are overdue now and were not at the last check. -/
theorem mem_told_iff (hon : p.watchdog.threshold ≠ 0) (hnew : ∀ a, p.watchdog.reported.get a = false)
    {events : List (Event H D)} {a : Action} :
    a ∈ (p.run events).told ↔
      p.Overdue events a ∧ ¬ ∃ seen, LastCheck events seen ∧ p.Overdue seen a := by
  rw [← reported_iff hc hidle hon hnew, ← mem_stalled_iff hc hidle, Bool.not_eq_true]
  rw [told, check_eq ((threshold_run p events).trans_ne hon), Watchdog.fresh_observe, sample,
    threshold_run]
  simp only [List.mem_map, List.mem_filter, Bool.not_eq_true']
  constructor
  · rintro ⟨run, ⟨hrun, hflag⟩, rfl⟩
    exact ⟨⟨run, hrun, rfl⟩, hflag⟩
  · rintro ⟨⟨run, hrun, rfl⟩, hflag⟩
    exact ⟨run, ⟨hrun, hflag⟩, rfl⟩

/-- During an episode a check tells of the action exactly if the episode is overdue for the first
time, and not hidden. -/
theorem Episode.mem_told_iff (hon : p.watchdog.threshold ≠ 0)
    (hnew : ∀ a, p.watchdog.reported.get a = false) {before during : List (Event H D)} {a : Action}
    (h : p.Episode before a during) (hage : p.watchdog.threshold ≤ p.age before a during) :
    a ∈ (p.run (before ++ .trigger a :: during)).told ↔
      (∀ m₁ m₂, during = m₁ ++ .check :: m₂ → p.age before a m₁ < p.watchdog.threshold) ∧
        ¬ p.Hidden before a during := by
  rw [Patrol.mem_told_iff hc hidle hon hnew, h.overdue_iff hc, and_iff_right hage]
  by_cases hcheck : .check ∈ during
  · -- The last check took place in the episode, and none before it found the episode older.
    obtain ⟨m, since, rfl, hs⟩ := exists_lastCheck hcheck
    have hlast : ∀ seen, LastCheck (before ++ .trigger a :: (m ++ .check :: since)) seen ↔
        seen = before ++ .trigger a :: m := fun seen => by
      rw [← lastCheck_check_append hs]
      simp
    simp only [hlast, exists_eq_left, h.of_append.overdue_iff hc, Nat.not_le]
    refine ⟨fun hyoung => ⟨fun m₁ m₂ hm => ?_, fun hhidden => hhidden.1 hcheck⟩,
      fun hfirst => hfirst.1 m since rfl⟩
    -- A check before the last one is in the episode, which was younger then.
    rcases List.append_eq_append_iff.1 hm with ⟨as, rfl, hsplit⟩ | ⟨as, rfl, hsplit⟩
    · cases as with
      | nil => simpa using hyoung
      | cons x as =>
        obtain ⟨rfl, rfl⟩ := List.cons.inj hsplit
        exact absurd (by simp) hs
    · exact Nat.lt_of_le_of_lt (age_le_append p before a m₁ as) hyoung
  -- No check took place in the episode, so the last one was before it.
  · have hlast : ∀ seen, LastCheck (before ++ .trigger a :: during) seen ↔ LastCheck before seen :=
      fun seen => lastCheck_append (by simp [hcheck])
    have hnone := forall_split_of_not_mem (P := (p.age before a · < p.watchdog.threshold)) hcheck
    simp only [hlast, Hidden, and_iff_right hcheck, and_iff_right hnone]

end

/-- A check tells of an action during an episode that is overdue exactly if no check found that
episode overdue before and no earlier episode hides it; it tells of no action without an overdue
episode, and of none twice; and a frontend warns of exactly what its watchdog tells. -/
theorem first_overdue_check_tells_iff (id capacity threshold : Nat) (hon : threshold ≠ 0) :
    let p : Patrol H D := start id capacity threshold
    (∀ before a during, p.Episode before a during → threshold ≤ p.age before a during →
      (a ∈ (p.run (before ++ .trigger a :: during)).told ↔
        (∀ m₁ m₂, during = m₁ ++ .check :: m₂ → p.age before a m₁ < threshold) ∧
          ¬ p.Hidden before a during)) ∧
      (∀ events a, a ∈ (p.run events).told → p.Overdue events a) ∧
      (∀ events, (p.run events).told.Nodup) ∧
      ∀ {T : Type} (f : Frontend T) (w : Watchdog) (r : Registry (Handler T) Dispatcher),
        f.watchdog = some w → f.registry = some r →
        FrontendM.checkStalls?.result f = some (w.isEnabled, (w.check r f.now).1.fresh) ∧
          (FrontendM.checkStalls?.after f).stallWarnings =
            f.stallWarnings ++ (w.check r f.now).1.fresh.map (·.action) := by
  intro p
  have hc : p.registry.Coherent := Registry.coherent_new id capacity
  have hidle : ∀ a, p.registry.runningSince? a = none := fun a => by
    simp [p, start, Registry.runningSince?]
  have hnew : ∀ a, p.watchdog.reported.get a = false := fun a => by simp [p, start]
  refine ⟨fun before a during h hage => h.mem_told_iff hc hidle hon hnew hage,
    fun events a htold => ((mem_told_iff hc hidle hon hnew).1 htold).1, nodup_told hc,
    fun f w r hw hr => FrontendM.checkStalls?_warns hw hr⟩

/-- A soft reset that is not finished is told once, when it is overdue for the first time. -/
theorem soft_reset_is_told_once :
    let p : Patrol Unit Unit := start 0 1 1
    .resetSoft ∈ (p.run ([.register [Registry.softReset]] ++ .trigger .resetSoft :: [.wait 1])).told ∧
      .resetSoft ∉ (p.run ([.register [Registry.softReset]] ++
        .trigger .resetSoft :: [.wait 1, .check, .wait 1])).told := by
  obtain ⟨htold, -⟩ := first_overdue_check_tells_iff (H := Unit) (D := Unit) 0 1 1 (by decide)
  constructor
  · refine (htold [.register [Registry.softReset]] .resetSoft [.wait 1] ⟨⟨_, rfl, rfl⟩, not_false⟩
      (by decide)).2 ⟨forall_split_of_not_mem (by simp), fun h => ?_⟩
    obtain ⟨-, seen, ⟨since, hlast, -⟩, -⟩ := h
    exact forall_split_of_not_mem (P := fun _ => False) (by simp) seen since hlast
  · intro hmem
    have hfirst := ((htold [.register [Registry.softReset]] .resetSoft [.wait 1, .check, .wait 1]
      ⟨⟨_, rfl, rfl⟩, not_false⟩ (by decide)).1 hmem).1 [.wait 1] [.wait 1] rfl
    revert hfirst
    decide

/-- A soft reset that was told is finished and requested again before the next check. When that
check comes the new episode is overdue for the first time, and the check does not tell of it. -/
theorem renewed_episode_is_missed :
    ¬ ∀ (id capacity threshold : Nat), threshold ≠ 0 →
      ∀ before a during,
        let p : Patrol Unit Unit := start id capacity threshold
        p.Episode before a during → threshold ≤ p.age before a during →
        (∀ m₁ m₂, during = m₁ ++ .check :: m₂ → p.age before a m₁ < threshold) →
        a ∈ (p.run (before ++ .trigger a :: during)).told := by
  intro h
  have htold := h 0 1 1 (by decide) [.register [Registry.softReset], .trigger .resetSoft, .wait 1,
    .check, .finish .resetSoft] .resetSoft [.wait 1] ⟨⟨_, rfl, rfl⟩, not_false⟩ (by decide)
    (forall_split_of_not_mem (by simp))
  revert htold
  decide

end Patrol

end Switchboard
