import Switchboard.FileTree
import Switchboard.Proofs.Files.Path

/-!
# What becomes of a tree of files

Of a tree of files two operations make another: directories are made, and a file is written.
`entry?_put` says what there is after something was put at a place. From it come what making
directories leaves as it is (`MakesWay`) and what can be read where something was written
(`readText_write`).

Names are followed through directories (`walk`), and where that goes well it leads to the place that
the names lead to by themselves (`FilePath.follow`). The places on a way are those that the beginnings
of its names lead to (`OnWay`); with two points among the names they need not get longer.

In a tree everything stands in a directory (`Closed`). There a path that does not lead up and that
the system does not find leads to nothing (`Closed.entry?_of_stat`).
-/

namespace Switchboard

namespace FileTree

open FilePath (next follow)

variable {t t' t'' : FileTree} {start names : List String}

/-! ## Putting something at a place -/

/-- A filter on the keys that keeps a key keeps what is found for it. -/
theorem lookup_filter_key {α β : Type} [BEq α] [LawfulBEq α] {k k' : α} (h : (k != k') = true)
    (l : List (α × β)) : (l.filter (·.1 != k')).lookup k = l.lookup k := by
  induction l with
  | nil => rfl
  | cons x l ih =>
    obtain ⟨key, v⟩ := x
    by_cases hkey : k = key
    · simp [← hkey, h]
    · have hne : (k == key) = false := beq_eq_false_iff_ne.2 hkey
      rw [List.filter_cons]
      split_ifs <;> simp [List.lookup_cons, hne, ih]

/-- What there is after something was put at a place. -/
theorem entry?_put {names : List String} (h : names ≠ []) (e : FileEntry) (place : List String) :
    FileTree.entry? (t.put names e) place = if place = names then some e else t.entry? place := by
  unfold entry? put
  by_cases hplace : place = names
  · subst hplace
    simp [h]
  · rw [if_neg hplace]
    split_ifs
    · rfl
    · have hne : (place == names) = false := by simpa using hplace
      rw [List.lookup_cons, hne]
      have hkept : (place != names) = true := by simpa using hplace
      exact lookup_filter_key hkept t.entries

/-! ## Making directories -/

/-- The place is one to which the first of some names lead. -/
def OnWay (start names place : List String) : Prop :=
  ∃ above, above <+: names ∧ follow start above = place

/-- The first name leads to a place on the way. -/
theorem OnWay.first (start : List String) (name : String) (names : List String) :
    OnWay start (name :: names) (next start name) :=
  ⟨[name], ⟨names, rfl⟩, rfl⟩

/-- The way from where a name leads is a part of the way. -/
theorem OnWay.cons {name : String} {place : List String} (h : OnWay (next start name) names place) :
    OnWay start (name :: names) place := by
  obtain ⟨above, hway, rfl⟩ := h
  exact ⟨name :: above, List.cons_prefix_cons.2 ⟨rfl, hway⟩, rfl⟩

/-- With more names at the end the way goes on. -/
theorem OnWay.mono {names' place : List String} (h : OnWay start names place)
    (hnames : names <+: names') : OnWay start names' place := by
  obtain ⟨above, hway, hplace⟩ := h
  exact ⟨above, hway.trans hnames, hplace⟩

/-- What there is at a place is what there was, or it is a directory on a way and there was nothing. -/
def KeptAt (start names : List String) (t t' : FileTree) (place : List String) : Prop :=
  t'.entry? place = t.entry? place ∨
    OnWay start names place ∧ t.entry? place = none ∧ t'.entry? place = some .directory

/-- Nothing but directories on a way was made. -/
structure MakesWay (start names : List String) (t t' : FileTree) : Prop where
  /-- Paths start where they did. -/
  base_eq : t'.base = t.base
  /-- What there was is there, and what is new is a directory on the way. -/
  keptAt : ∀ place, KeptAt start names t t' place

/-- Nothing was made. -/
theorem MakesWay.refl (start names : List String) (t : FileTree) : MakesWay start names t t :=
  ⟨rfl, fun _ => .inl rfl⟩

/-- First some directories on a way were made, then others. -/
theorem MakesWay.trans (h : MakesWay start names t t') (h' : MakesWay start names t' t'') :
    MakesWay start names t t'' := by
  refine ⟨h'.base_eq.trans h.base_eq, fun place => ?_⟩
  -- A directory that the first part made is something for the second, which leaves it.
  rcases h.keptAt place with hkept | ⟨hway, hnone, hmade⟩ <;>
    rcases h'.keptAt place with hkept' | ⟨hway', hnone', hmade'⟩
  · exact .inl (hkept'.trans hkept)
  · exact .inr ⟨hway', hkept ▸ hnone', hmade'⟩
  · exact .inr ⟨hway, hnone, hkept'.trans hmade⟩
  · simp [hmade] at hnone'

/-- What is on one way only is on another that all its places are on. -/
theorem MakesWay.mono {start' names' : List String} (h : MakesWay start names t t')
    (hway : ∀ place, OnWay start names place → OnWay start' names' place) :
    MakesWay start' names' t t' :=
  ⟨h.base_eq, fun place => (h.keptAt place).imp_right fun hmade => ⟨hway place hmade.1, hmade.2⟩⟩

/-- Where there is nothing is not the root. -/
theorem ne_nil_of_missing {place : List String} (h : t.entry? place = none) : place ≠ [] := by
  rintro rfl
  exact absurd h (Option.some_ne_none _)

/-- A directory that is put where there was nothing. -/
theorem MakesWay.put {place : List String} (hplace : t.entry? place = none)
    (hway : OnWay start names place) : MakesWay start names t (t.put place .directory) := by
  refine ⟨rfl, fun place' => ?_⟩
  unfold KeptAt
  rw [entry?_put (ne_nil_of_missing hplace)]
  split_ifs with heq
  · exact .inr ⟨heq ▸ hway, heq ▸ hplace, rfl⟩
  · exact .inl rfl

/-- To make the directories for some names makes nothing but directories on their way. -/
theorem makesWay_createDirectories (t : FileTree) (made : Bool) (start names : List String) :
    MakesWay start names t (t.createDirectories made start names).2 := by
  induction names generalizing t made start with
  | nil => exact .refl _ _ t
  | cons name names ih =>
    -- The statement is for every tree, as the names that follow are made in another one.
    have hnext (t : FileTree) (made : Bool) : MakesWay start (name :: names) t
        (t.createDirectories made (next start name) names).2 :=
      (ih t made (next start name)).mono fun _ => OnWay.cons
    unfold createDirectories
    by_cases hlong : name.utf8ByteSize > nameLimit
    · rw [if_pos hlong]
      exact .refl _ _ t
    · rw [if_neg hlong]
      cases hentry : t.entry? (next start name) with
      | none => exact (MakesWay.put hentry (.first start name names)).trans (hnext _ true)
      | some e =>
        cases e with
        | directory => exact hnext t made
        | file content => exact .refl _ _ t

/-- What is left when a path has been made a directory: nothing was tried, or the directories for
its names, or for those before the last, were made as far as that went. -/
theorem createDirectory_tree (t : FileTree) (p : FilePath) :
    (t.createDirectory p).2 = t ∨ p.text ≠ "" ∧ ∃ names, names <+: p.names ∧
      (t.createDirectory p).2 = (t.createDirectories false (t.origin p) names).2 := by
  by_cases hempty : p.text = ""
  · exact .inl (by rw [createDirectory, if_pos (by simpa using hempty)])
  · rw [createDirectory, if_neg (by simpa using hempty)]
    cases checkPath p with
    | error e => exact .inl rfl
    | ok _ =>
      dsimp only
      split_ifs with hpoint
      · cases t.stat p with
        | ok _ => exact .inl rfl
        | error e =>
          dsimp only
          split_ifs
          · refine .inr ⟨hempty, p.names.dropLast, List.dropLast_prefix _, ?_⟩
            rcases t.createDirectories false (t.origin p) p.names.dropLast with ⟨_ | _, t'⟩ <;> rfl
          · exact .inl rfl
      · exact .inr ⟨hempty, p.names, List.prefix_rfl, rfl⟩

/-- To make a directory makes nothing but directories on the way to it. -/
theorem makesWay_createDirectory (t : FileTree) (p : FilePath) :
    MakesWay (t.origin p) p.names t (t.createDirectory p).2 := by
  obtain hsame | ⟨-, names, hnames, htree⟩ := t.createDirectory_tree p
  · rw [hsame]
    exact .refl _ _ t
  · rw [htree]
    exact (makesWay_createDirectories t false (t.origin p) names).mono fun _ h => h.mono hnames

/-- To make the directory that a file is in makes nothing but directories on the way to it. -/
theorem makesWay_directory (t : FileTree) (p : FilePath) :
    MakesWay (t.origin p) p.names.dropLast t (t.createDirectory p.directory).2 := by
  by_cases hempty : p.directory.text = ""
  · have hsame : (t.createDirectory p.directory).2 = t := by
      rw [createDirectory, if_pos (by simpa using hempty)]
    rw [hsame]
    exact .refl _ _ t
  · have horigin : t.origin p.directory = t.origin p := by
      unfold origin
      rw [FilePath.isAbsolute_directory hempty]
    have hway := makesWay_createDirectory t p.directory
    rwa [horigin, FilePath.names_directory] at hway

/-! ## What a path leads to -/

/-- Some names lead through directories if the first one does and the others do from there. -/
theorem walk_cons {name : String} {place : List String} :
    t.walk start (name :: names) = .ok place ↔ name.utf8ByteSize ≤ nameLimit ∧
      t.entry? (next start name) = some .directory ∧ t.walk (next start name) names = .ok place := by
  rw [walk]
  by_cases hlong : name.utf8ByteSize > nameLimit
  · rw [if_pos hlong]
    simp [Nat.not_le.2 hlong]
  · rw [if_neg hlong]
    rcases t.entry? (next start name) with _ | _ | content <;> simp [Nat.not_lt.1 hlong]

/-- Names lead through directories exactly if none of them is too long and there is a directory at
each place on the way, and they lead to where they lead by themselves. -/
theorem walk_eq_ok_iff {place : List String} :
    t.walk start names = .ok place ↔ (∀ name ∈ names, name.utf8ByteSize ≤ nameLimit) ∧
      (∀ above, above ≠ [] → above <+: names → t.entry? (follow start above) = some .directory) ∧
      follow start names = place := by
  induction names generalizing start with
  | nil =>
    have hnone : ∀ above : List String, above ≠ [] → above <+: [] →
        t.entry? (follow start above) = some .directory :=
      fun above hne hway => absurd (List.prefix_nil.1 hway) hne
    simp only [walk, Except.ok.injEq, FilePath.follow_nil]
    exact ⟨fun h => ⟨List.forall_mem_nil _, hnone, h⟩, fun h => h.2.2⟩
  | cons name names ih =>
    rw [walk_cons, ih, List.forall_mem_cons, FilePath.follow_cons]
    constructor
    · rintro ⟨hname, hentry, hnames, hways, hplace⟩
      refine ⟨⟨hname, hnames⟩, fun above hne hway => ?_, hplace⟩
      -- Of the beginnings of the names, one is nothing, one is the first name, the others go on
      -- from there.
      obtain rfl | ⟨rest, rfl, hrest⟩ := List.prefix_cons_iff.1 hway
      · exact absurd rfl hne
      · cases rest with
        | nil => exact hentry
        | cons name' rest => exact hways (name' :: rest) (List.cons_ne_nil _ _) hrest
    · rintro ⟨⟨hname, hnames⟩, hways, hplace⟩
      refine ⟨hname, hways [name] (List.cons_ne_nil _ _) ⟨names, rfl⟩, hnames, ?_, hplace⟩
      exact fun above _ hway =>
        hways (name :: above) (List.cons_ne_nil _ _) (List.cons_prefix_cons.2 ⟨rfl, hway⟩)

/-- Where names lead nowhere something on the way is not there. -/
theorem exists_missing_of_walk (h : t.walk start names = .error .notFound) :
    ∃ place, OnWay start names place ∧ t.entry? place = none := by
  induction names generalizing start with
  | nil => simp [walk] at h
  | cons name names ih =>
    rw [walk] at h
    split at h
    · exact absurd (Except.error.inj h) (by decide)
    · cases hentry : t.entry? (next start name) with
      | none => exact ⟨next start name, .first start name names, hentry⟩
      | some e =>
        rw [hentry] at h
        cases e with
        | directory =>
          obtain ⟨place, hway, hnone⟩ := ih h
          exact ⟨place, hway.cons, hnone⟩
        | file content => exact absurd (Except.error.inj h) (by decide)

/-- The last name of a path leads on from where those before it lead. -/
theorem place_of_getLast? {p : FilePath} {name : String} (h : p.names.getLast? = some name) :
    next (follow (t.origin p) p.names.dropLast) name = t.place p := by
  obtain ⟨above, habove⟩ := List.getLast?_eq_some_iff.1 h
  unfold place
  rw [habove, List.dropLast_concat, FilePath.follow_append]
  rfl

/-- A path is located if its text can be a path, the names before the last lead through directories
and the last one is not too long. The place is the one that the path leads to. -/
theorem locate_eq_ok_iff {p : FilePath} {place : List String} :
    t.locate p = .ok place ↔ checkPath p = .ok () ∧
      (∃ above, t.walk (t.origin p) p.names.dropLast = .ok above) ∧
      (p.names.getLast?.getD "").utf8ByteSize ≤ nameLimit ∧ t.place p = place := by
  unfold locate
  rcases checkPath p with e | _
  · simp [bind, Except.bind]
  · rcases hwalk : t.walk (t.origin p) p.names.dropLast with e | above
    · simp [bind, Except.bind]
    · obtain ⟨-, -, rfl⟩ := walk_eq_ok_iff.1 hwalk
      rcases hlast : p.names.getLast? with _ | name
      · have hnames : p.names = [] := List.getLast?_eq_none_iff.1 hlast
        simp [bind, Except.bind, pure, Except.pure, FileTree.place, hnames]
      · have hplace := place_of_getLast? (t := t) hlast
        by_cases hlong : name.utf8ByteSize > nameLimit
        · simp [bind, Except.bind, hlong, Nat.not_le.2 hlong, throw, throwThe, MonadExceptOf.throw]
        · simp [bind, Except.bind, hlong, Nat.not_lt.1 hlong, pure, Except.pure, hplace]

/-- A path that is located leads to the place. -/
theorem locate_place {p : FilePath} {place : List String} (h : t.locate p = .ok place) :
    t.place p = place :=
  (locate_eq_ok_iff.1 h).2.2.2

/-- Of all texts only the empty one is not found without a look at the files. -/
theorem text_of_notFound {p : FilePath} (h : checkPath p = .error .notFound) : p.text = "" := by
  unfold checkPath at h
  split_ifs at h with hnul hempty hlong
  · exact absurd (Except.error.inj h) (by decide)
  · simpa using hempty
  · exact absurd (Except.error.inj h) (by decide)

/-- A path is not located for want of something on the way, unless it is empty. -/
theorem locate_eq_notFound {p : FilePath} (h : t.locate p = .error .notFound) :
    p.text = "" ∨ t.walk (t.origin p) p.names.dropLast = .error .notFound := by
  unfold locate at h
  rcases hpath : checkPath p with e | _
  · rw [hpath] at h
    obtain rfl := Except.error.inj h
    exact .inl (text_of_notFound hpath)
  · rw [hpath] at h
    rcases hwalk : t.walk (t.origin p) p.names.dropLast with e | above
    · rw [hwalk] at h
      obtain rfl := Except.error.inj h
      exact .inr rfl
    · rw [hwalk] at h
      rcases hlast : p.names.getLast? with _ | name
      · simp [bind, Except.bind, hlast, pure, Except.pure] at h
      · by_cases hlong : name.utf8ByteSize > nameLimit
        · simp only [bind, Except.bind, hlast, hlong, if_true] at h
          exact absurd (Except.error.inj h) (by decide)
        · simp [bind, Except.bind, hlast, hlong, pure, Except.pure] at h

/-- What is said of a path that is located, or why it is not. -/
theorem stat_cases (t : FileTree) (p : FilePath) :
    (∃ e, t.locate p = .error e ∧ t.stat p = .error e) ∨
    (t.entry? (t.place p) = none ∧ t.stat p = .error .notFound) ∨
    (∃ e, t.entry? (t.place p) = some e ∧ (t.stat p = .ok e ∨ t.stat p = .error .notADirectory)) := by
  unfold stat
  rcases hlocate : t.locate p with e | place
  · exact .inl ⟨e, rfl, rfl⟩
  · obtain rfl := locate_place hlocate
    simp only [bind, Except.bind]
    rcases t.entry? (t.place p) with _ | _ | content
    · exact .inr (.inl ⟨rfl, rfl⟩)
    · exact .inr (.inr ⟨_, rfl, .inl rfl⟩)
    · refine .inr (.inr ⟨_, rfl, ?_⟩)
      by_cases hdirectory : (p.endsWithSlash || p.endsWithPoint) = true
      · exact .inr (if_pos hdirectory)
      · exact .inl (if_neg hdirectory)

/-- What is said to be at a path is there. -/
theorem entry?_of_stat {p : FilePath} {e : FileEntry} (h : t.stat p = .ok e) :
    t.entry? (t.place p) = some e := by
  rcases t.stat_cases p with ⟨e', -, hstat⟩ | ⟨-, hstat⟩ | ⟨e', hentry, hstat | hstat⟩ <;>
    rw [hstat] at h
  · simp at h
  · simp at h
  · obtain rfl := Except.ok.inj h
    exact hentry
  · simp at h

/-- A file that is located is said to be there, if the path does not ask for a directory. -/
theorem stat_of_locate {p : FilePath} {content : ByteArray} (h : t.locate p = .ok (t.place p))
    (hentry : t.entry? (t.place p) = some (.file content)) (hslash : p.endsWithSlash = false)
    (hpoint : p.endsWithPoint = false) : t.stat p = .ok (.file content) := by
  unfold stat
  rw [h]
  simp [bind, Except.bind, hentry, hslash, hpoint, pure, Except.pure]

/-- The text of a file is that of its bytes, if they are those of a text. -/
theorem readText_of_stat {p : FilePath} {content : ByteArray}
    (h : t.stat p = .ok (.file content)) :
    t.readText p = (String.fromUTF8? content).elim (.error .notText) .ok := by
  have hread : t.read p = .ok content := by
    unfold read
    rw [h]
    rfl
  unfold readText
  rw [hread]
  show (bind (.ok content) _ : Except IoError String) = _
  simp only [bind, Except.bind]
  cases String.fromUTF8? content <;> rfl

/-- Only of a file there is a text. -/
theorem exists_file_of_readText {p : FilePath} {text : String} (h : t.readText p = .ok text) :
    ∃ content, t.stat p = .ok (.file content) ∧ String.fromUTF8? content = some text := by
  cases hstat : t.stat p with
  | error e =>
    unfold readText read at h
    rw [hstat] at h
    simp [bind, Except.bind] at h
  | ok e =>
    cases e with
    | directory =>
      unfold readText read at h
      rw [hstat] at h
      simp [bind, Except.bind, throw, throwThe, MonadExceptOf.throw] at h
    | file content =>
      rw [readText_of_stat hstat] at h
      cases htext : String.fromUTF8? content with
      | none => simp [htext] at h
      | some text' =>
        rw [htext] at h
        obtain rfl := Except.ok.inj h
        exact ⟨content, rfl, htext⟩

/-! ## Trees in which everything stands in a directory -/

/-- Everything stands in a directory, and paths start in one. -/
structure Closed (t : FileTree) : Prop where
  /-- What stands at a place stands in the place above, which is a directory. -/
  within : ∀ names name, t.entry? (names ++ [name]) ≠ none → t.entry? names = some .directory
  /-- The place at which paths start is a directory. -/
  base_directory : t.entry? t.base = some .directory

/-- The place at which a path starts is a directory. -/
theorem Closed.origin_directory (h : t.Closed) (p : FilePath) :
    t.entry? (t.origin p) = some .directory := by
  unfold origin
  split_ifs
  · rfl
  · exact h.base_directory

/-- Above a directory there is a directory. -/
theorem Closed.directory_above (h : t.Closed) {place : List String}
    (hplace : t.entry? place = some .directory) : t.entry? place.dropLast = some .directory := by
  obtain rfl | ⟨above, name, rfl⟩ := List.eq_nil_or_concat place
  · rfl
  · rw [List.concat_eq_append] at hplace ⊢
    rw [List.dropLast_concat]
    exact h.within above name (by simp [hplace])

/-- From a directory only a name that does not lead up leads to where there is no directory. -/
theorem Closed.next_of_free (h : t.Closed) {place : List String} {name : String}
    (hplace : t.entry? place = some .directory)
    (hfree : t.entry? (next place name) ≠ some .directory) :
    next place name = place ++ [name] := by
  unfold next at hfree ⊢
  split_ifs at hfree ⊢ with hup
  · exact absurd (h.directory_above hplace) hfree
  · rfl

/-- Below a place where there is nothing there is nothing. -/
theorem Closed.entry?_of_prefix (h : t.Closed) {above names : List String} (hway : above <+: names)
    (hnone : t.entry? above = none) : t.entry? names = none := by
  -- What stands further below would have something above it, name by name.
  obtain ⟨below, rfl⟩ := hway
  induction below using List.reverseRecOn with
  | nil => rwa [List.append_nil]
  | append_singleton below name ih =>
    by_contra hsome
    rw [← List.append_assoc] at hsome
    simp [h.within _ _ hsome] at ih

/-- Where a path that does not lead up is not found, there is nothing, unless it is the empty path.
One that leads up may fail on the way to something that is there. -/
theorem Closed.entry?_of_stat (h : t.Closed) {p : FilePath} (hstat : t.stat p = .error .notFound)
    (hp : p.text ≠ "") (hup : p.leadsUp = false) : t.entry? (t.place p) = none := by
  rcases t.stat_cases p with ⟨e, hlocate, hsame⟩ | ⟨hnone, -⟩ | ⟨e, -, hother | hother⟩
  -- Without a name that leads up, what is missing on the way is above the place itself.
  · rw [hstat] at hsame
    obtain rfl := Except.error.inj hsame
    have hwalk := (locate_eq_notFound hlocate).resolve_left hp
    obtain ⟨place, ⟨above, hway, rfl⟩, hnone⟩ := exists_missing_of_walk hwalk
    have hnames := FilePath.ne_of_leadsUp hup
    have hway' : above <+: p.names := hway.trans (List.dropLast_prefix _)
    refine h.entry?_of_prefix ?_ hnone
    unfold place
    rw [FilePath.follow_eq_append hnames,
      FilePath.follow_eq_append fun name hname => hnames name (hway'.subset hname)]
    exact (List.prefix_append_right_inj _).2 hway'
  · exact hnone
  · simp [hother] at hstat
  · rw [hother] at hstat
    exact absurd (Except.error.inj hstat) (by decide)

/-! ## Writing a file -/

/-- What it takes to write a file, and what it does. -/
theorem write_eq_ok_iff {p : FilePath} {content : ByteArray} :
    t.write p content = .ok t' ↔ (t.locate p = .ok (t.place p) ∧ p.endsWithPoint = false ∧
      p.endsWithSlash = false ∧ (t.entry? (t.place p)).any (·.isDirectory) = false) ∧
      t.put (t.place p) (.file content) = t' := by
  unfold write
  rcases hlocate : t.locate p with e | place
  · simp [bind, Except.bind]
  · obtain rfl := locate_place hlocate
    rcases hpoint : p.endsWithPoint with _ | _
    · rcases hslash : p.endsWithSlash with _ | _ <;>
        rcases hfound : (t.entry? (t.place p)).any (·.isDirectory) with _ | _ <;>
        simp [bind, Except.bind, pure, Except.pure, throw, throwThe, MonadExceptOf.throw, hfound]
    · rcases hfound : t.entry? (t.place p) with _ | _ | old <;>
        simp [bind, Except.bind, throw, throwThe, MonadExceptOf.throw, hfound]

/-- Where a file is written there is no directory. -/
theorem entry?_of_write {p : FilePath} {content : ByteArray} (h : t.write p content = .ok t') :
    t.entry? (t.place p) ≠ some .directory := by
  obtain ⟨⟨-, -, -, hfound⟩, -⟩ := write_eq_ok_iff.1 h
  intro hdirectory
  simp [hdirectory, FileEntry.isDirectory] at hfound

/-- The root is not written. -/
theorem place_of_write {p : FilePath} {content : ByteArray} (h : t.write p content = .ok t') :
    t.place p ≠ [] := by
  intro hroot
  refine entry?_of_write h ?_
  rw [hroot]
  rfl

/-- What there is after a file was written. -/
theorem entry?_write {p : FilePath} {content : ByteArray} (h : t.write p content = .ok t')
    (place : List String) :
    t'.entry? place = if place = t.place p then some (.file content) else t.entry? place := by
  rw [← (write_eq_ok_iff.1 h).2, entry?_put (place_of_write h)]

/-- Paths start where they did. -/
theorem base_of_write {p : FilePath} {content : ByteArray} (h : t.write p content = .ok t') :
    t'.base = t.base := by
  rw [← (write_eq_ok_iff.1 h).2]
  rfl

/-- Where paths start at the same place, a path leads to the same place. -/
theorem place_of_base (h : t'.base = t.base) (p : FilePath) : t'.place p = t.place p := by
  unfold place origin
  rw [h]

/-- Under the empty path nothing can be written. -/
theorem write_of_empty {p : FilePath} (hp : p.text = "") (content : ByteArray) :
    t.write p content = .error .notFound := by
  have hpath : checkPath p = .error .notFound := by
    unfold checkPath
    rw [hp]
    rfl
  unfold write locate
  rw [hpath]
  rfl

/-- The bytes of a text are those of the text. -/
theorem fromUTF8?_toUTF8 (text : String) : String.fromUTF8? text.toUTF8 = some text :=
  dif_pos text.isValidUTF8

/-- What can be written can be read. -/
theorem readText_write {p : FilePath} {text : String} (h : t.write p text.toUTF8 = .ok t') :
    t'.stat p = .ok (.file text.toUTF8) ∧ t'.readText p = .ok text := by
  obtain ⟨⟨hlocate, hpoint, hslash, -⟩, -⟩ := write_eq_ok_iff.1 h
  obtain ⟨hpath, ⟨above, hwalk⟩, hlast, -⟩ := locate_eq_ok_iff.1 hlocate
  have hbase := base_of_write h
  have horigin : t'.origin p = t.origin p := by
    unfold origin
    rw [hbase]
  -- The way to the file goes through directories, and none of them has been written.
  have hwalk' : t'.walk (t'.origin p) p.names.dropLast = .ok above := by
    obtain ⟨hnames, hways, hplace⟩ := walk_eq_ok_iff.1 hwalk
    rw [horigin]
    refine walk_eq_ok_iff.2 ⟨hnames, fun above habove hway => ?_, hplace⟩
    have hdirectory := hways above habove hway
    rw [entry?_write h, if_neg, hdirectory]
    intro hsame
    exact entry?_of_write h (hsame ▸ hdirectory)
  have hstat : t'.stat p = .ok (.file text.toUTF8) := by
    refine stat_of_locate (locate_eq_ok_iff.2 ⟨hpath, ⟨above, hwalk'⟩, hlast, rfl⟩) ?_ hslash hpoint
    rw [entry?_write h, place_of_base hbase, if_pos rfl]
  refine ⟨hstat, ?_⟩
  rw [readText_of_stat hstat, fromUTF8?_toUTF8]
  rfl

/-! ## Trees stay closed -/

/-- In the empty tree everything stands in a directory. -/
theorem closed_empty : Closed {} where
  within names name h := by
    unfold entry? at h
    simp at h
  base_directory := rfl

/-- What is put into a directory, but not in the place of one, leaves a tree closed. -/
theorem Closed.put (h : t.Closed) (place : List String) (name : String) (e : FileEntry)
    (hparent : t.entry? place = some .directory)
    (hfree : t.entry? (place ++ [name]) ≠ some .directory) :
    (t.put (place ++ [name]) e).Closed := by
  have hne : place ++ [name] ≠ [] := List.append_ne_nil_of_right_ne_nil _ (List.cons_ne_nil _ _)
  -- A directory is still one, since it is not what was put in the place of something.
  have hkept : ∀ place', t.entry? place' = some .directory →
      FileTree.entry? (t.put (place ++ [name]) e) place' = some .directory := by
    intro place' hdirectory
    rw [entry?_put hne, if_neg, hdirectory]
    rintro rfl
    exact hfree hdirectory
  refine ⟨fun names' name' hsome => ?_, hkept _ h.base_directory⟩
  rw [entry?_put hne] at hsome
  split_ifs at hsome with heq
  · obtain ⟨rfl, -⟩ := List.append_inj' heq rfl
    exact hkept _ hparent
  · exact hkept _ (h.within names' name' hsome)

/-- To make directories from a directory on leaves a tree closed. -/
theorem Closed.createDirectories (h : t.Closed) (made : Bool)
    (hstart : t.entry? start = some .directory) (names : List String) :
    (t.createDirectories made start names).2.Closed := by
  induction names generalizing t made start with
  | nil => exact h
  | cons name names ih =>
    rw [FileTree.createDirectories]
    by_cases hlong : name.utf8ByteSize > nameLimit
    · rw [if_pos hlong]
      exact h
    · rw [if_neg hlong]
      cases hentry : t.entry? (next start name) with
      | none =>
        -- A name that leads up leads to a directory, so where there is nothing the name was added.
        have hnext : next start name = start ++ [name] := h.next_of_free hstart (by simp [hentry])
        rw [hnext] at hentry ⊢
        refine ih (h.put start name .directory hstart (by simp [hentry])) true ?_
        rw [entry?_put (ne_nil_of_missing hentry), if_pos rfl]
      | some e =>
        cases e with
        | directory => exact ih h made hentry
        | file content => exact h

/-- To make a directory leaves a tree closed. -/
theorem Closed.createDirectory (h : t.Closed) (p : FilePath) : (t.createDirectory p).2.Closed := by
  obtain hsame | ⟨-, names, -, htree⟩ := t.createDirectory_tree p
  · rwa [hsame]
  · rw [htree]
    exact h.createDirectories false (h.origin_directory p) names

/-- To write a file leaves a tree closed. -/
theorem Closed.write (h : t.Closed) {p : FilePath} {content : ByteArray}
    (hwrite : t.write p content = .ok t') : t'.Closed := by
  have hfree := entry?_of_write hwrite
  obtain ⟨⟨hlocate, -⟩, rfl⟩ := write_eq_ok_iff.1 hwrite
  obtain ⟨-, ⟨above, hwalk⟩, -⟩ := locate_eq_ok_iff.1 hlocate
  obtain ⟨-, hways, -⟩ := walk_eq_ok_iff.1 hwalk
  -- The last name is put into a directory: the last on the way, or where the path starts.
  have hparent : t.entry? (follow (t.origin p) p.names.dropLast) = some .directory := by
    by_cases hroot : p.names.dropLast = []
    · rw [hroot]
      exact h.origin_directory p
    · exact hways _ hroot List.prefix_rfl
  cases hlast : p.names.getLast? with
  | none =>
    -- A path without names leads to where it starts, which is a directory.
    have hnames : p.names = [] := List.getLast?_eq_none_iff.1 hlast
    refine absurd (h.origin_directory p) ?_
    rwa [place, hnames] at hfree
  | some name =>
    rw [← place_of_getLast? hlast] at hfree ⊢
    have hnext := h.next_of_free hparent hfree
    rw [hnext] at hfree ⊢
    exact h.put _ name (.file content) hparent hfree

end FileTree

end Switchboard
