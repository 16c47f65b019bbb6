import Switchboard.Proofs.Files.Tree
import Switchboard.Proofs.Settings.RoundTrip
import Switchboard.Settings.Store
import Mathlib.Logic.Function.Iterate

/-!
# Settings files are kept

Loading never writes over what it finds, and what it writes where it finds nothing it reads from then
on; saving changes the one file and is read back; and where either fails no file has changed
(`files_are_kept`). To save is to make the way to the directory of the file and then to write once;
`saveTo_cases` tells what there is when either failed.

What loading finds is what the system finds, and it looks before it makes the way. A path that goes
down into a missing directory and up again is not found, but once the way is made it leads to a file
that has been there all along, and this one is written over (`file_behind_missing_directory_is_lost`).
Paths that do not lead up have no such file.
-/

namespace Switchboard.Settings

open FileTree

variable {t : FileTree} {p : FilePath}

/-! ## Reading -/

/-- What is read of a file that holds a text. -/
theorem readFrom_of_text {text : String} (h : t.readText p = .ok text) :
    readFrom p t = (ofText text).mapError .settingsText := by
  unfold readFrom
  rw [h]
  cases hread : ofText text with
  | error e => simp only [hread, Except.mapError]
  | ok s => simp only [hread, Except.mapError]

/-- What cannot be read as text fails. -/
theorem readFrom_of_error {e : IoError} (h : t.readText p = .error e) :
    readFrom p t = .error (.settingsFile p.text e) := by
  unfold readFrom
  rw [h]

/-! ## Loading, by what is said of the path -/

/-- What is found is read. -/
theorem loadFrom_of_ok {e : FileEntry} (h : t.stat p = .ok e) :
    loadFrom p t = ⟨readFrom p t, t, [.loadingSettings p.text]⟩ := by
  have hthere : t.isThere p = .ok true := by
    unfold isThere
    rw [h]
  unfold loadFrom
  rw [hthere]

/-- Where nothing is found the defaults are saved. -/
theorem loadFrom_of_notFound (h : t.stat p = .error .notFound) :
    loadFrom p t = ⟨(saveTo {} p t).answer.map fun _ => {}, (saveTo {} p t).tree,
      .noSettings p.text :: (saveTo {} p t).notices⟩ := by
  have hthere : t.isThere p = .ok false := by
    unfold isThere
    rw [h]
    exact if_pos rfl
  unfold loadFrom
  rw [hthere]

/-- What cannot be looked for fails. -/
theorem loadFrom_of_error {e : IoError} (h : t.stat p = .error e) (he : e ≠ .notFound) :
    loadFrom p t = ⟨.error (.settingsFile p.text e), t, []⟩ := by
  have hthere : t.isThere p = .error e := by
    unfold isThere
    rw [h]
    exact if_neg he
  unfold loadFrom
  rw [hthere]

/-! ## Saving -/

/-- The files when the way to a file has been made, or as much of it as could be. -/
def wayTo (p : FilePath) (t : FileTree) : FileTree := (t.createDirectory p.directory).2

/-- On the way to a file nothing but directories is made. -/
theorem makesWay_wayTo (p : FilePath) (t : FileTree) :
    MakesWay (t.origin p) p.names.dropLast t (wayTo p t) :=
  makesWay_directory t p

/-- Where the way is made and the file is written, saving succeeds. -/
theorem saveTo_of_write {s : Settings} {made t' : FileTree}
    (hmade : t.createDirectory p.directory = (.ok (), made))
    (hwrite : made.write p s.render.toUTF8 = .ok t') :
    (saveTo s p t).answer = .ok () ∧ (saveTo s p t).tree = t' := by
  simp only [saveTo, hmade, hwrite, and_self]

/-- Saving makes the way to the file, and then it writes the file or fails. -/
theorem saveTo_cases (s : Settings) (p : FilePath) (t : FileTree) :
    (∃ t', (wayTo p t).write p s.render.toUTF8 = .ok t' ∧ (saveTo s p t).answer = .ok () ∧
      (saveTo s p t).tree = t') ∨
    ∃ path e, (saveTo s p t).answer = .error (.settingsFile path e) ∧
      (saveTo s p t).tree = wayTo p t := by
  unfold wayTo
  rcases hmade : t.createDirectory p.directory with ⟨e | _, t₁⟩
  · refine .inr ⟨p.directory.text, e, ?_⟩
    simp only [saveTo, hmade, and_self]
  · cases hwrite : t₁.write p s.render.toUTF8 with
    | error e =>
      refine .inr ⟨p.text, e, ?_⟩
      simp only [saveTo, hmade, hwrite, and_self]
    | ok t' => exact .inl ⟨t', rfl, saveTo_of_write hmade hwrite⟩

/-- Saving changes the one file, and what was saved is loaded, which changes nothing. -/
theorem of_saved {s : Settings} (h : (saveTo s p t).answer = .ok ()) :
    (saveTo s p t).tree.entry? (t.place p) = some (.file s.render.toUTF8) ∧
      (∀ place, place ≠ t.place p →
        KeptAt (t.origin p) p.names.dropLast t (saveTo s p t).tree place) ∧
      (loadFrom p (saveTo s p t).tree).answer = .ok s ∧
      (loadFrom p (saveTo s p t).tree).tree = (saveTo s p t).tree := by
  obtain ⟨t', hwrite, -, htree⟩ | ⟨path, e, hfailed, -⟩ := saveTo_cases s p t
  · have hway := makesWay_wayTo p t
    have hplace : (wayTo p t).place p = t.place p := place_of_base hway.base_eq p
    obtain ⟨hstat, htext⟩ := readText_write hwrite
    -- What is written is the text of settings, which is read as those settings.
    have hread : ofText s.render = .ok s := ofText_of_parse (parse_render s)
      (ofEntries_sections s.registry.read_table s.log.read_table)
    rw [htree]
    refine ⟨?_, fun place hother => ?_, ?_⟩
    · rw [entry?_write hwrite, hplace, if_pos rfl]
    · unfold KeptAt
      rw [entry?_write hwrite, hplace, if_neg hother]
      exact hway.keptAt place
    · rw [loadFrom_of_ok hstat, readFrom_of_text htext, hread]
      exact ⟨rfl, rfl⟩
  · simp [hfailed] at h

/-- Saving that fails has made directories on the way at most. -/
theorem of_not_saved {s : Settings} {e : ActionError} (h : (saveTo s p t).answer = .error e) :
    MakesWay (t.origin p) p.names.dropLast t (saveTo s p t).tree := by
  obtain ⟨t', -, hok, -⟩ | ⟨path, e', -, htree⟩ := saveTo_cases s p t
  · simp [hok] at h
  · rw [htree]
    exact makesWay_wayTo p t

/-- Saving leaves a tree in which everything stands in a directory. -/
theorem closed_saveTo (ht : t.Closed) (s : Settings) (p : FilePath) :
    (saveTo s p t).tree.Closed := by
  have hway : (wayTo p t).Closed := ht.createDirectory _
  obtain ⟨t', hwrite, -, htree⟩ | ⟨path, e, -, htree⟩ := saveTo_cases s p t
  · rw [htree]
    exact hway.write hwrite
  · rw [htree]
    exact hway

/-- Nothing can be saved under the empty path. -/
theorem saveTo_of_empty {s : Settings} (hp : p.text = "") :
    (saveTo s p t).answer = .error (.settingsFile p.text .notFound) ∧ (saveTo s p t).tree = t := by
  have hmade : t.createDirectory p.directory = (.ok (), t) := by
    rw [FilePath.directory, FilePath.parent?_of_empty hp]
    rfl
  have hwrite : t.write p s.render.toUTF8 = .error .notFound := write_of_empty hp _
  simp only [saveTo, hmade, hwrite, and_self]

/-! ## Loading -/

/-- What is found is not changed by loading, which gives what the text says or fails on the file. -/
theorem loadFrom_of_found (h : t.stat p ≠ .error .notFound) :
    (loadFrom p t).tree = t ∧
      ((∃ content text, t.entry? (t.place p) = some (.file content) ∧
          String.fromUTF8? content = some text ∧
          (loadFrom p t).answer = (ofText text).mapError .settingsText) ∨
        ∃ path e, (loadFrom p t).answer = .error (.settingsFile path e)) := by
  cases hstat : t.stat p with
  | ok e =>
    rw [loadFrom_of_ok hstat]
    refine ⟨rfl, ?_⟩
    cases htext : t.readText p with
    | error cause => exact .inr ⟨_, cause, readFrom_of_error htext⟩
    | ok text =>
      obtain ⟨content, hfile, hcontent⟩ := exists_file_of_readText htext
      exact .inl ⟨content, text, entry?_of_stat hfile, hcontent, readFrom_of_text htext⟩
  | error e =>
    have he : e ≠ .notFound := fun he => h (he ▸ hstat)
    rw [loadFrom_of_error hstat he]
    exact ⟨rfl, .inr ⟨_, e, rfl⟩⟩

/-- The same holds wherever there is something, if the path does not lead up. -/
theorem loadFrom_of_there (ht : t.Closed) (hup : p.leadsUp = false)
    (h : t.entry? (t.place p) ≠ none) :
    (loadFrom p t).tree = t ∧
      ((∃ content text, t.entry? (t.place p) = some (.file content) ∧
          String.fromUTF8? content = some text ∧
          (loadFrom p t).answer = (ofText text).mapError .settingsText) ∨
        ∃ path e, (loadFrom p t).answer = .error (.settingsFile path e)) := by
  by_cases hstat : t.stat p = .error .notFound
  · -- Only under the empty path something that is there is not found.
    have hp : p.text = "" := by
      by_contra hp
      exact h (ht.entry?_of_stat hstat hp hup)
    obtain ⟨hanswer, htree⟩ := saveTo_of_empty (t := t) (s := {}) hp
    rw [loadFrom_of_notFound hstat, hanswer, htree]
    exact ⟨rfl, .inr ⟨_, _, rfl⟩⟩
  · exact loadFrom_of_found hstat

/-- Where nothing is found, loading that does not fail saves the defaults. -/
theorem saved_of_loaded (h : t.stat p = .error .notFound) {s : Settings}
    (hs : (loadFrom p t).answer = .ok s) :
    s = {} ∧ (saveTo {} p t).answer = .ok () ∧ (loadFrom p t).tree = (saveTo {} p t).tree := by
  rw [loadFrom_of_notFound h] at hs ⊢
  cases hsaved : (saveTo {} p t).answer with
  | error e => simp [hsaved, Except.map] at hs
  | ok _ =>
    rw [hsaved] at hs
    exact ⟨(Except.ok.inj hs).symm, rfl, rfl⟩

/-- Loading that fails has made directories on the way at most. -/
theorem of_not_loaded {e : ActionError} (h : (loadFrom p t).answer = .error e) :
    MakesWay (t.origin p) p.names.dropLast t (loadFrom p t).tree := by
  by_cases hstat : t.stat p = .error .notFound
  · rw [loadFrom_of_notFound hstat] at h ⊢
    cases hsaved : (saveTo {} p t).answer with
    | error e => exact of_not_saved hsaved
    | ok _ => simp [hsaved, Except.map] at h
  · rw [(loadFrom_of_found hstat).1]
    exact .refl _ _ t

/-- Loading leaves a tree in which everything stands in a directory. -/
theorem closed_loadFrom (ht : t.Closed) (p : FilePath) : (loadFrom p t).tree.Closed := by
  by_cases hstat : t.stat p = .error .notFound
  · rw [loadFrom_of_notFound hstat]
    exact closed_saveTo ht {} p
  · rw [(loadFrom_of_found hstat).1]
    exact ht

/-- Every file that there was holds what it held. -/
def KeepsFiles (t t' : FileTree) : Prop :=
  ∀ place content, t.entry? place = some (.file content) → t'.entry? place = some (.file content)

/-- Where nothing but directories was made all files are kept. -/
theorem keepsFiles_of_keptAt {start names : List String} {t' : FileTree} {place : List String}
    {content : ByteArray} (h : KeptAt start names t t' place)
    (hfile : t.entry? place = some (.file content)) : t'.entry? place = some (.file content) := by
  obtain hsame | ⟨-, hnone, -⟩ := h
  · rw [hsame, hfile]
  · simp [hfile] at hnone

/-- Loading keeps all files, but for one to which the path leads though it is not found. -/
theorem keepsFiles_loadFrom_iff :
    KeepsFiles t (loadFrom p t).tree ↔
      (t.stat p = .error .notFound → (loadFrom p t).answer = .ok {} →
        ∀ content, t.entry? (t.place p) = some (.file content) →
          content = (render {}).toUTF8) := by
  constructor
  · intro hkept hstat hs content hfile
    -- Loading has written the defaults to the place, so a file that is kept there held them before.
    obtain ⟨-, hsaved, htree⟩ := saved_of_loaded hstat hs
    have hwritten := (of_saved hsaved).1
    rw [← htree, hkept _ content hfile] at hwritten
    simpa using hwritten
  · intro hlost place content hfile
    by_cases hstat : t.stat p = .error .notFound
    · cases hs : (loadFrom p t).answer with
      | error e => exact keepsFiles_of_keptAt ((of_not_loaded hs).keptAt place) hfile
      | ok s =>
        -- Saving changes one place, and what was there had the text that is written.
        obtain ⟨rfl, hsaved, htree⟩ := saved_of_loaded hstat hs
        obtain ⟨hwritten, hothers, -⟩ := of_saved hsaved
        rw [htree]
        by_cases hplace : place = t.place p
        · subst hplace
          rw [hwritten, hlost hstat hs content hfile]
        · exact keepsFiles_of_keptAt (hothers place hplace) hfile
    -- What is found is not changed.
    · rw [(loadFrom_of_found hstat).1, hfile]

/-! ## Files are kept -/

/-- Settings files are not written over by loading as long as the path does not lead up, and loading
is stable. In every tree of files in which everything stands in a directory, for every path:

* What the system finds is not changed by loading, which gives what the text of the file says or
  fails on the file; it never falls back on the defaults. If the path does not lead up, this holds
  for all that there is.
* Where the system finds nothing and loading succeeds, it gives the defaults, it has made the file
  and missing directories on the way to it and nothing else, and however often it is loaded again from
  then on, it gives the defaults and changes nothing.
* Loading changes a file exactly if the path leads to it though the system does not find it, loading
  succeeds, and the file did not hold the defaults. No path that does not lead up is of this kind.
* When saving succeeds, it has changed the file, made missing directories on the way to it and nothing
  else, and what is loaded is what was saved.
* When loading or saving fails, directories on the way are all that was made, and no file was changed.
* In the tree that either leaves everything stands in a directory. -/
theorem files_are_kept (ht : t.Closed) (p : FilePath) :
    let loaded := loadFrom p t
    (t.stat p ≠ .error .notFound ∨ p.leadsUp = false ∧ t.entry? (t.place p) ≠ none →
      loaded.tree = t ∧
      ((∃ content text, t.entry? (t.place p) = some (.file content) ∧
          String.fromUTF8? content = some text ∧
          loaded.answer = (ofText text).mapError .settingsText) ∨
        ∃ path e, loaded.answer = .error (.settingsFile path e))) ∧
    (∀ content text, t.stat p = .ok (.file content) → String.fromUTF8? content = some text →
      loaded.answer = (ofText text).mapError .settingsText) ∧
    (∀ s, t.stat p = .error .notFound → loaded.answer = .ok s →
      s = {} ∧ loaded.tree.entry? (t.place p) = some (.file (render {}).toUTF8) ∧
      (∀ place, place ≠ t.place p → KeptAt (t.origin p) p.names.dropLast t loaded.tree place) ∧
      ∀ n, let later := (fun t => (loadFrom p t).tree)^[n] loaded.tree
        later = loaded.tree ∧ (loadFrom p later).answer = .ok {}) ∧
    ((KeepsFiles t loaded.tree ↔
        (t.stat p = .error .notFound → loaded.answer = .ok {} →
          ∀ content, t.entry? (t.place p) = some (.file content) → content = (render {}).toUTF8)) ∧
      (p.leadsUp = false → KeepsFiles t loaded.tree)) ∧
    (∀ s, (saveTo s p t).answer = .ok () →
      (saveTo s p t).tree.entry? (t.place p) = some (.file s.render.toUTF8) ∧
      (∀ place, place ≠ t.place p →
        KeptAt (t.origin p) p.names.dropLast t (saveTo s p t).tree place) ∧
      (loadFrom p (saveTo s p t).tree).answer = .ok s ∧
      (loadFrom p (saveTo s p t).tree).tree = (saveTo s p t).tree) ∧
    (∀ e, loaded.answer = .error e → MakesWay (t.origin p) p.names.dropLast t loaded.tree) ∧
    (∀ s e, (saveTo s p t).answer = .error e →
      MakesWay (t.origin p) p.names.dropLast t (saveTo s p t).tree) ∧
    loaded.tree.Closed ∧ ∀ s, (saveTo s p t).tree.Closed := by
  intro loaded
  refine ⟨fun hold => ?_, fun content text hstat htext => ?_, fun s hstat hs => ?_,
    ⟨keepsFiles_loadFrom_iff, fun hup => ?_⟩, fun s => of_saved, fun e => of_not_loaded,
    fun s e => of_not_saved, closed_loadFrom ht p, fun s => closed_saveTo ht s p⟩
  · obtain hfound | ⟨hup, hthere⟩ := hold
    · exact loadFrom_of_found hfound
    · exact loadFrom_of_there ht hup hthere
  · have hread : t.readText p = .ok text := by
      rw [readText_of_stat hstat, htext]
      rfl
    show (loadFrom p t).answer = _
    rw [loadFrom_of_ok hstat, readFrom_of_text hread]
  · obtain ⟨rfl, hsaved, htree⟩ := saved_of_loaded hstat hs
    obtain ⟨hfile, hothers, hanswer, hsame⟩ := of_saved hsaved
    rw [← htree] at hfile hothers hanswer hsame
    refine ⟨rfl, hfile, hothers, fun n => ?_⟩
    have hlater : (fun t => (loadFrom p t).tree)^[n] loaded.tree = loaded.tree :=
      Function.iterate_fixed hsame n
    dsimp only
    rw [hlater]
    exact ⟨rfl, hanswer⟩
  · refine keepsFiles_loadFrom_iff.2 fun hstat hs content hfile => ?_
    -- Then loading has changed nothing, but what it succeeded in was to write the defaults.
    have htree := (loadFrom_of_there ht hup (by simp [hfile])).1
    obtain ⟨-, hsaved, hsavedTree⟩ := saved_of_loaded hstat hs
    have hwritten := (of_saved hsaved).1
    rw [← hsavedTree, htree, hfile] at hwritten
    simpa using hwritten

/-- A file that is no settings file, in a directory. -/
def malformed : FileTree :=
  (FileTree.put {} ["etc"] .directory).put ["etc", "config.toml"] (.file "registry".toUTF8)

/-- A file that is no settings file is refused, and it stays. -/
theorem malformed_file_is_kept :
    malformed.Closed ∧
      (loadFrom ⟨["etc", "config.toml"]⟩ malformed).tree = malformed ∧
      (loadFrom ⟨["etc", "config.toml"]⟩ malformed).answer = .error (.settingsText .malformed) := by
  have hclosed : malformed.Closed :=
    (closed_empty.put [] "etc" .directory rfl nofun).put ["etc"] "config.toml" _ rfl nofun
  obtain ⟨hkept, htext, -⟩ := files_are_kept hclosed ⟨["etc", "config.toml"]⟩
  have hstat : malformed.stat ⟨["etc", "config.toml"]⟩ = .ok (.file "registry".toUTF8) := rfl
  have hrefused : ofText "registry" = .error .malformed := rfl
  refine ⟨hclosed, (hkept (.inl (by simp [hstat]))).1, ?_⟩
  rw [htext _ _ hstat (fromUTF8?_toUTF8 _), hrefused]
  rfl

/-- A settings file where paths start. -/
def configured : FileTree :=
  FileTree.put {} ["config.toml"] (.file "[registry]\nmachine = \"vic20\"\n".toUTF8)

/-- A path that goes down into a directory and up again. -/
def roundabout : FilePath := ⟨["new", "..", "config.toml"]⟩

/-- A settings file is lost to a path that goes down into a missing directory and up again: the system
finds nothing there, and when the directory is made the defaults are written over what was there. -/
theorem file_behind_missing_directory_is_lost :
    configured.Closed ∧ configured.place roundabout = ["config.toml"] ∧
      configured.entry? ["config.toml"] =
        some (.file "[registry]\nmachine = \"vic20\"\n".toUTF8) ∧
      (loadFrom roundabout configured).answer = .ok {} ∧
      (loadFrom roundabout configured).tree.entry? ["config.toml"] = some (.file (render {}).toUTF8) ∧
      ¬ KeepsFiles configured (loadFrom roundabout configured).tree := by
  have hclosed : configured.Closed := closed_empty.put [] "config.toml" _ rfl nofun
  have hstat : configured.stat roundabout = .error .notFound := by rfl
  have hmade : configured.createDirectory roundabout.directory =
      (.ok (), configured.put ["new"] .directory) := by rfl
  -- With the directory there the path leads to the file, which is no directory.
  obtain ⟨t', hwrite⟩ : ∃ t',
      (configured.put ["new"] .directory).write roundabout (render {}).toUTF8 = .ok t' :=
    ⟨_, write_eq_ok_iff.2 ⟨⟨rfl, rfl, rfl, rfl⟩, rfl⟩⟩
  have hsaved := saveTo_of_write hmade hwrite
  have hanswer : (loadFrom roundabout configured).answer = .ok {} := by
    rw [loadFrom_of_notFound hstat, hsaved.1]
    rfl
  have hwritten : (loadFrom roundabout configured).tree.entry? ["config.toml"] =
      some (.file (render {}).toUTF8) := by
    rw [loadFrom_of_notFound hstat]
    exact (of_saved hsaved.1).1
  refine ⟨hclosed, rfl, rfl, hanswer, hwritten, fun hkept => ?_⟩
  have hsame := (hkept ["config.toml"] _ rfl).symm.trans hwritten
  have htext : "[registry]\nmachine = \"vic20\"\n" = render {} := by
    simpa [String.toByteArray_inj] using hsame
  exact absurd htext (by decide)

end Switchboard.Settings
