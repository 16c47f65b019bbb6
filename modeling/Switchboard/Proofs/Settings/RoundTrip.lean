import Switchboard.Proofs.Duration.RoundTrip
import Switchboard.Proofs.Toml.Tables
import Switchboard.Settings.Text

/-!
# Settings read back

Whatever the settings are, the text that is written for them is read as the same settings
(`Settings.ofText_render`). The text is that of two tables (`Settings.parse_render`), which hold
every setting, the directory of log files only if there is one. Each value is taken for its setting
as it was, and the directory stays away if it is not in the table.
-/

namespace Switchboard

open Toml (Assignment WrittenTable Value Entries)

/-! ## The text as tables -/

/-- The line of a text. -/
theorem line_text {k : String} (hk : Toml.IsBareKey k) (s : String) :
    (Assignment.text k hk s).line = (settingLine k (quoted s)).toList := by
  simp [settingLine, quoted, Assignment.line, Toml.assignLine, Assignment.text]

/-- The line of a number. -/
theorem line_number {k : String} (hk : Toml.IsBareKey k) (n : Nat) :
    (Assignment.number k hk n).line = (settingLine k (toString n)).toList := by
  simp [settingLine, Assignment.line, Toml.assignLine, Assignment.number]

namespace RegistrySettings

/-- The table that is written for the settings. -/
def table (s : RegistrySettings) : WrittenTable where
  name := "registry"
  assignments :=
    [.number "initial_capacity" (by decide) s.initialCapacity.toNat,
      .text "machine" (by decide) s.machine.name,
      .text "stall_warning" (by decide) s.stallWarning.render]
  isBareKey := by decide
  nodup_keys := by simp [Assignment.text, Assignment.number]

/-- The text of the section is that of its table. -/
theorem toList_render (s : RegistrySettings) : s.render.toList = s.table.lines.flatten := by
  simp [render, table, WrittenTable.lines, Toml.headLine, line_text, line_number]

end RegistrySettings

namespace LogSettings

/-- The table that is written for the settings. -/
def table (s : LogSettings) : WrittenTable where
  name := "logging"
  assignments :=
    [.text "level" (by decide) s.level] ++
      s.directory.toList.map (.text "log_dir" (by decide)) ++
      [.text "file_prefix" (by decide) s.fileStem,
        .text "rotation" (by decide) s.rotation.name,
        .number "max_log_files" (by decide) s.maxFiles.toNat]
  isBareKey := by decide
  nodup_keys := by cases s.directory <;> simp [Assignment.text, Assignment.number]

/-- The text of the section is that of its table, with or without a directory. -/
theorem toList_render (s : LogSettings) : s.render.toList = s.table.lines.flatten := by
  cases hd : s.directory <;>
    simp [render, table, hd, WrittenTable.lines, Toml.headLine, line_text, line_number]

end LogSettings

/-- The text of settings stands for a table of each section. -/
theorem Settings.parse_render (s : Settings) :
    Toml.parse s.render = some [s.registry.table.entry, s.log.table.entry] := by
  refine @Toml.parse_document [s.registry.table, s.log.table] _ ?_ ?_
  · simp [RegistrySettings.table, LogSettings.table]
  · simp [render, RegistrySettings.toList_render, LogSettings.toList_render, Toml.documentLines,
      WrittenTable.lines, WrittenTable.laterLines]

/-! ## Values taken for settings -/

namespace Setting

/-- A number is taken for a count as it was. -/
theorem count_ofInt (n : UInt64) : count (.ofInt n.toNat) = .ok n := by
  have hsize : n.toNat < 2 ^ 64 := n.toNat_lt
  -- What fits in 64 bits is far from the bounds beyond which no number is kept.
  have hofInt : Value.ofInt n.toNat = .integer n.toNat := by
    refine if_pos ?_
    rw [Bool.and_eq_true, decide_eq_true_iff, decide_eq_true_iff]
    have hmin : -Int.pow 2 127 ≤ 0 := by decide
    have hmax : ((2 ^ 64 : Nat) : Int) ≤ Int.pow 2 128 := by decide
    omega
  rw [hofInt, count, if_neg (by omega), if_pos (by exact_mod_cast hsize)]
  simp

/-- A word is taken for what it names. -/
theorem word_name {α : Type} {ofName? : String → Option α} {name : α → String}
    (h : ∀ x, ofName? (name x) = some x) (known : List String) (x : α) :
    word ofName? known (.string (name x)) = .ok x := by
  rw [word, word.named, h]

/-- A machine is taken for itself by its name. -/
theorem machine_name (m : Machine) : machine (.string m.name) = .ok m :=
  word_name Machine.ofName?_name _ m

/-- A rotation is taken for itself by its name. -/
theorem rotation_name (r : Rotation) : rotation (.string r.name) = .ok r :=
  word_name Rotation.ofName?_name _ r

/-- A duration is taken for itself as it is written. -/
theorem duration_render (d : Duration) : duration (.string d.render) = .ok d := by
  rw [duration, Duration.ofText?_render]

end Setting

/-! ## Sections read back -/

/-- A table with no other keys than those of a section is taken as the settings it gives. -/
theorem Section.read_table {S : Type} {sec : Section S} {defaults s : S} {es : Entries}
    (hknown : ∀ e ∈ es, sec.knows e.1 = true) (hs : sec.ofEntries defaults es = .ok s) :
    sec.read defaults (some (.table es)) = .ok s := by
  rw [read, hs]
  show (if es.all _ = true then _ else _ : Except String S) = _
  rw [if_pos]
  · rfl
  · rw [List.all_eq_true]
    intro e he
    show (sec.knows e.1 || e.2.isReadable) = true
    rw [hknown e he, Bool.true_or]

namespace RegistrySettings

/-- The capacity is set to the number that is given. -/
theorem initialCapacityField_set (s : RegistrySettings) (n : UInt64) :
    initialCapacityField.set s (.ofInt n.toNat) = .ok { s with initialCapacity := n } := by
  simp only [initialCapacityField, Setting.count_ofInt]
  rfl

/-- The machine is set to the one that is named. -/
theorem machineField_set (s : RegistrySettings) (m : Machine) :
    machineField.set s (.string m.name) = .ok { s with machine := m } := by
  simp only [machineField, Setting.machine_name]
  rfl

/-- The threshold is set to the duration that is given. -/
theorem stallWarningField_set (s : RegistrySettings) (d : Duration) :
    stallWarningField.set s (.string d.render) = .ok { s with stallWarning := d } := by
  simp only [stallWarningField, Setting.duration_render]
  rfl

/-- What the table that is written holds. -/
theorem entries_table (s : RegistrySettings) : s.table.entries =
    [(initialCapacityField.key, .ofInt s.initialCapacity.toNat),
      (machineField.key, .string s.machine.name),
      (stallWarningField.key, .string s.stallWarning.render)] := by
  simp [table, WrittenTable.entries, Assignment.entry, Assignment.text, Assignment.number,
    initialCapacityField, machineField, stallWarningField]

/-- What is written for the section is read as the same settings. -/
theorem read_table (s : RegistrySettings) :
    fields.read {} (some (.table s.table.entries)) = .ok s := by
  refine Section.read_table ?_ ?_
  · simp [entries_table, Section.knows, fields]
  -- No key comes twice, so each is found where it was written.
  · have hcapacity : s.table.entries.lookup initialCapacityField.key =
        some (.ofInt s.initialCapacity.toNat) := s.table.lookup_entries (by simp [entries_table])
    have hmachine : s.table.entries.lookup machineField.key = some (.string s.machine.name) :=
      s.table.lookup_entries (by simp [entries_table])
    have hstall : s.table.entries.lookup stallWarningField.key =
        some (.string s.stallWarning.render) := s.table.lookup_entries (by simp [entries_table])
    simp only [Section.ofEntries, fields, List.foldlM_cons, List.foldlM_nil, hcapacity, hmachine,
      hstall, initialCapacityField_set, machineField_set, stallWarningField_set]
    rfl

end RegistrySettings

namespace LogSettings

/-- Any text is taken for the level. -/
theorem levelField_set (s : LogSettings) (t : String) :
    levelField.set s (.string t) = .ok { s with level := t } := rfl

/-- Any text is taken for the directory. -/
theorem directoryField_set (s : LogSettings) (t : String) :
    directoryField.set s (.string t) = .ok { s with directory := some t } := rfl

/-- Any text is taken for the stem of file names. -/
theorem fileStemField_set (s : LogSettings) (t : String) :
    fileStemField.set s (.string t) = .ok { s with fileStem := t } := rfl

/-- The rotation is set to the one that is named. -/
theorem rotationField_set (s : LogSettings) (r : Rotation) :
    rotationField.set s (.string r.name) = .ok { s with rotation := r } := by
  simp only [rotationField, Setting.rotation_name]
  rfl

/-- The number of files is set to the one that is given. -/
theorem maxFilesField_set (s : LogSettings) (n : UInt64) :
    maxFilesField.set s (.ofInt n.toNat) = .ok { s with maxFiles := n } := by
  simp only [maxFilesField, Setting.count_ofInt]
  rfl

/-- What the table that is written holds. -/
theorem entries_table (s : LogSettings) : s.table.entries =
    [(levelField.key, .string s.level)] ++
      s.directory.toList.map (fun d => (directoryField.key, .string d)) ++
      [(fileStemField.key, .string s.fileStem), (rotationField.key, .string s.rotation.name),
        (maxFilesField.key, .ofInt s.maxFiles.toNat)] := by
  simp [table, WrittenTable.entries, Assignment.entry, Assignment.text, Assignment.number,
    levelField, directoryField, fileStemField, rotationField, maxFilesField, Function.comp_def]

/-- A directory is in the table that is written if and only if there is one. -/
theorem lookup_directory (s : LogSettings) :
    s.table.entries.lookup directoryField.key = s.directory.map .string := by
  cases hd : s.directory with
  | none =>
    refine Toml.lookup_eq_none ?_
    simp [entries_table, hd, levelField, directoryField, fileStemField, rotationField, maxFilesField]
  | some d => exact s.table.lookup_entries (by simp [entries_table, hd])

/-- What is written for the section is read as the same settings. -/
theorem read_table (s : LogSettings) : fields.read {} (some (.table s.table.entries)) = .ok s := by
  refine Section.read_table ?_ ?_
  · rw [entries_table]
    cases s.directory <;> simp [Section.knows, fields]
  · have hlevel : s.table.entries.lookup levelField.key = some (.string s.level) :=
      s.table.lookup_entries (by simp [entries_table])
    have hstem : s.table.entries.lookup fileStemField.key = some (.string s.fileStem) :=
      s.table.lookup_entries (by simp [entries_table])
    have hrotation : s.table.entries.lookup rotationField.key = some (.string s.rotation.name) :=
      s.table.lookup_entries (by simp [entries_table])
    have hmax : s.table.entries.lookup maxFilesField.key = some (.ofInt s.maxFiles.toNat) :=
      s.table.lookup_entries (by simp [entries_table])
    have hdirectory := s.lookup_directory
    -- Without a directory the default is left, and that is none.
    cases hd : s.directory with
    | none =>
      rw [hd, Option.map_none] at hdirectory
      simp only [Section.ofEntries, fields, List.foldlM_cons, List.foldlM_nil, hlevel, hdirectory,
        hstem, hrotation, hmax, levelField_set, fileStemField_set, rotationField_set,
        maxFilesField_set]
      rw [← hd]
      rfl
    | some d =>
      rw [hd, Option.map_some] at hdirectory
      simp only [Section.ofEntries, fields, List.foldlM_cons, List.foldlM_nil, hlevel, hdirectory,
        hstem, hrotation, hmax, levelField_set, directoryField_set, fileStemField_set,
        rotationField_set, maxFilesField_set]
      rw [← hd]
      rfl

end LogSettings

namespace Settings

/-- A document of both sections and nothing else gives what each of them gives. -/
theorem ofEntries_sections {r l : Value} {registry : RegistrySettings} {log : LogSettings}
    (hr : RegistrySettings.fields.read {} (some r) = .ok registry)
    (hl : LogSettings.fields.read {} (some l) = .ok log) :
    ofEntries [("registry", r), ("logging", l)] = .ok { registry, log } := by
  have hregistry : [("registry", r), ("logging", l)].lookup "registry" = some r := rfl
  have hlogging : [("registry", r), ("logging", l)].lookup "logging" = some l := rfl
  rw [ofEntries, hregistry, hlogging, hr, hl]
  rfl

/-- The settings that a text stands for are those of its document. -/
theorem ofText_eq {text : String} {entries : Toml.Entries} (h : Toml.parse text = some entries) :
    ofText text = ofDocument entries := by
  unfold ofText
  rw [h]

/-- A document gives settings exactly if its entries do. -/
theorem ofDocument_eq_ok_iff {entries : Toml.Entries} {s : Settings} :
    ofDocument entries = .ok s ↔ ofEntries entries = .ok s := by
  unfold ofDocument
  cases ofEntries entries with
  | ok s' => simp
  | error reason => cases (Value.table entries).fitsLanguage <;> simp

/-- A text gives the settings that the entries of its document give. -/
theorem ofText_of_parse {text : String} {entries : Toml.Entries} {s : Settings}
    (hparse : Toml.parse text = some entries) (hentries : ofEntries entries = .ok s) :
    ofText text = .ok s :=
  (ofText_eq hparse).trans (ofDocument_eq_ok_iff.2 hentries)

/-- The text that is written for some settings is read as those settings. -/
theorem ofText_render (s : Settings) : ofText s.render = .ok s :=
  ofText_of_parse (parse_render s) (ofEntries_sections s.registry.read_table s.log.read_table)

end Settings

end Switchboard
