import Mathlib
import Switchboard.Proofs.Settings.RoundTrip
import Switchboard.Proofs.Toml.DistinctKeys

/-!
# Settings are read key by key

Each setting has a key of its own in one of the two sections (`Settings.Key`), and what a document
gives for it is found by that key alone. A document is taken exactly if each of its known keys stands
for something that the setting takes (`Settings.ofEntries_eq_ok_iff`); so it is enough to know what
becomes of documents with a single key. The theorem on this is about documents in which the sections
are tables, as they are written, and in which every integer is within the bounds of the language.

One thing more counts than the known keys: a float beyond the largest double makes a document one
that cannot be read, even behind a key that is passed over (`overflowing_float_is_refused`).
-/

namespace Switchboard

open Toml (Value Entries)

/-! ## Numbers within bounds -/

namespace Toml.Value

/-- A table passes a test if all its values do. -/
theorem allLeaves_table_iff {p : Value → Bool} {es : Entries} :
    (Value.table es).allLeaves p = true ↔ ∀ e ∈ es, e.2.allLeaves p = true := by
  rw [allLeaves]
  induction es with
  | nil => simp [allEntries]
  | cons e es ih => simp [allEntries, ih]

/-- All numbers of a table can be held if those of its values can. -/
theorem isReadable_table_iff {es : Entries} :
    (Value.table es).isReadable = true ↔ ∀ e ∈ es, e.2.isReadable = true :=
  allLeaves_table_iff

end Toml.Value

namespace Settings

/-! ## The keys -/

/-- A setting. -/
inductive Key
  | initialCapacity | machine | stallWarning
  | level | directory | fileStem | rotation | maxFiles
  deriving DecidableEq

namespace Key

/-- The section that has the setting. -/
def sectionName : Key → String
  | initialCapacity | machine | stallWarning => "registry"
  | level | directory | fileStem | rotation | maxFiles => "logging"

/-- The key of the setting in its section. -/
def name : Key → String
  | initialCapacity => "initial_capacity"
  | machine => "machine"
  | stallWarning => "stall_warning"
  | level => "level"
  | directory => "log_dir"
  | fileStem => "file_prefix"
  | rotation => "rotation"
  | maxFiles => "max_log_files"

/-- What the setting is set to. -/
abbrev Content : Key → Type
  | initialCapacity | maxFiles => UInt64
  | machine => Machine
  | stallWarning => Duration
  | level | fileStem => String
  | directory => Option String
  | rotation => Rotation

/-- What some settings have for it. -/
def get : (k : Key) → Settings → k.Content
  | initialCapacity, s => s.registry.initialCapacity
  | machine, s => s.registry.machine
  | stallWarning, s => s.registry.stallWarning
  | level, s => s.log.level
  | directory, s => s.log.directory
  | fileStem, s => s.log.fileStem
  | rotation, s => s.log.rotation
  | maxFiles, s => s.log.maxFiles

/-- How a value for it is taken. -/
def take : (k : Key) → Setting.Reading k.Content
  | initialCapacity | maxFiles => Setting.count
  | machine => Setting.machine
  | stallWarning => Setting.duration
  | level | fileStem => Setting.text "a string"
  | directory => fun v => some <$> Setting.text "path string" v
  | rotation => Setting.rotation

/-- What comes of a value for it; without one it is left at its default. -/
def read (k : Key) : Option Value → Except String k.Content
  | none => .ok (k.get {})
  | some v => k.take v

/-- A document gives a value for the setting. -/
def IsGiven (k : Key) (v : Value) (entries : Entries) : Prop :=
  ∃ es, (k.sectionName, .table es) ∈ entries ∧ (k.name, v) ∈ es

/-- The document that gives a value for the setting and nothing else. -/
def only (k : Key) (v : Value) : Entries := [(k.sectionName, .table [(k.name, v)])]

/-- What a document gives for the setting. -/
def valueIn (k : Key) (entries : Entries) : Option Value :=
  match entries.lookup k.sectionName with
  | some (.table es) => es.lookup k.name
  | _ => none

/-- A document without a key twice gives at most one value for a setting. -/
theorem isGiven_iff {k : Key} {v : Value} {entries : Entries} (h : (Value.table entries).Tidy) :
    k.IsGiven v entries ↔ k.valueIn entries = some v := by
  cases h with
  | leaf hleaf => exact absurd rfl (hleaf.not_table _)
  | table hkeys hvalues =>
    constructor
    -- The value that is given is the one that is looked up, as no name stands twice in either
    -- table.
    · rintro ⟨es, hsection, hkey⟩
      have hes : (Value.table es).Tidy := hvalues _ hsection
      cases hes with
      | leaf hleaf => exact absurd rfl (hleaf.not_table _)
      | table hnames _ =>
        rw [valueIn, Toml.lookup_of_mem hkeys hsection]
        exact Toml.lookup_of_mem hnames hkey
    · intro hv
      unfold valueIn at hv
      split at hv
      · rename_i es hsection
        exact ⟨es, Toml.mem_of_lookup hsection, Toml.mem_of_lookup hv⟩
      · simp at hv

/-- A document with one key gives nothing for the others. -/
theorem valueIn_only (k k' : Key) (v : Value) :
    k'.valueIn (k.only v) = if k' = k then some v else none := by
  cases k <;> cases k' <;> rfl

/-- A document with one key gives one value. -/
theorem only_tables (k : Key) (v : Value) : ∀ e ∈ k.only v, ∃ es, e.2 = .table es := by
  intro e he
  rw [List.mem_singleton.1 he]
  exact ⟨_, rfl⟩

/-- The settings with some contents. -/
def settings (content : (k : Key) → k.Content) : Settings where
  registry :=
    { initialCapacity := content initialCapacity
      machine := content machine
      stallWarning := content stallWarning }
  log :=
    { level := content level
      directory := content directory
      fileStem := content fileStem
      rotation := content rotation
      maxFiles := content maxFiles }

/-- Each setting of settings that were put together is the one that was put in. -/
@[simp] theorem get_settings (content : (k : Key) → k.Content) (k : Key) :
    k.get (settings content) = content k := by
  cases k <;> rfl

end Key

/-! ## Sections -/

/-- A section reads its first field and then the others, if that field sets what a value for its key
is taken for and the default is in place already. -/
theorem ofEntries_cons {S : Type} {n : String} {inOrder fs : List (Field S)} (k : Key) (f : Field S)
    (put : S → k.Content → S) {acc : S}
    (hset : ∀ v, f.set acc v = k.take v >>= fun x => pure (put acc x))
    (hdefault : put acc (k.get {}) = acc) (es : Entries) :
    Section.ofEntries ⟨n, inOrder, f :: fs⟩ acc es =
      k.read (es.lookup f.key) >>= fun x => Section.ofEntries ⟨n, inOrder, fs⟩ (put acc x) es := by
  unfold Section.ofEntries
  rw [List.foldlM_cons]
  cases es.lookup f.key with
  | none =>
    show _ = List.foldlM _ (put acc (k.get {})) fs
    rw [hdefault]
    rfl
  | some v =>
    show f.set acc v >>= _ = k.take v >>= _
    rw [hset, bind_assoc]
    rfl

/-- The settings of the registry are read one by one. -/
theorem registry_ofEntries (es : Entries) :
    RegistrySettings.fields.ofEntries {} es = (do
      let initialCapacity ← Key.initialCapacity.read (es.lookup "initial_capacity")
      let machine ← Key.machine.read (es.lookup "machine")
      let stallWarning ← Key.stallWarning.read (es.lookup "stall_warning")
      return { initialCapacity, machine, stallWarning }) := by
  unfold RegistrySettings.fields
  rw [ofEntries_cons .initialCapacity _ (fun s x => { s with initialCapacity := x }) (fun _ => rfl) rfl]
  refine bind_congr fun initialCapacity => ?_
  rw [ofEntries_cons .machine _ (fun s x => { s with machine := x }) (fun _ => rfl) rfl]
  refine bind_congr fun machine => ?_
  rw [ofEntries_cons .stallWarning _ (fun s x => { s with stallWarning := x }) (fun _ => rfl) rfl]
  rfl

/-- The settings of log output are read one by one. -/
theorem log_ofEntries (es : Entries) :
    LogSettings.fields.ofEntries {} es = (do
      let fileStem ← Key.fileStem.read (es.lookup "file_prefix")
      let level ← Key.level.read (es.lookup "level")
      let directory ← Key.directory.read (es.lookup "log_dir")
      let maxFiles ← Key.maxFiles.read (es.lookup "max_log_files")
      let rotation ← Key.rotation.read (es.lookup "rotation")
      return { level, directory, fileStem, rotation, maxFiles }) := by
  -- The directory is the one field that puts its value in a box.
  have hdirectory : ∀ (s : LogSettings) v, LogSettings.directoryField.set s v =
      Key.directory.take v >>= fun x => pure { s with directory := x } := by
    intro s v
    show _ = (some <$> Setting.text "path string" v) >>= _
    rw [bind_map_left]
    rfl
  unfold LogSettings.fields
  rw [ofEntries_cons .fileStem _ (fun s x => { s with fileStem := x }) (fun _ => rfl) rfl]
  refine bind_congr fun fileStem => ?_
  rw [ofEntries_cons .level _ (fun s x => { s with level := x }) (fun _ => rfl) rfl]
  refine bind_congr fun level => ?_
  rw [ofEntries_cons .directory _ (fun s x => { s with directory := x }) (hdirectory _) rfl]
  refine bind_congr fun directory => ?_
  rw [ofEntries_cons .maxFiles _ (fun s x => { s with maxFiles := x }) (fun _ => rfl) rfl]
  refine bind_congr fun maxFiles => ?_
  rw [ofEntries_cons .rotation _ (fun s x => { s with rotation := x }) (fun _ => rfl) rfl]
  rfl

/-- What a computation that may fail gives, if it gives what another makes of what a first gives. -/
theorem bind_eq_ok_iff {ε α β : Type} {m : Except ε α} {k : α → Except ε β} {y : β} :
    m >>= k = .ok y ↔ ∃ x, m = .ok x ∧ k x = .ok y := by
  cases m with
  | error e =>
    constructor
    · intro h
      cases h
    · rintro ⟨x, hx, -⟩
      cases hx
  | ok x =>
    constructor
    · intro h
      exact ⟨x, rfl, h⟩
    · rintro ⟨x', hx, h⟩
      rw [← Except.ok.inj hx] at h
      exact h

/-- A registry section is taken if each of its keys is, and gives what they give. -/
theorem registry_ofEntries_eq_ok_iff {es : Entries} {r : RegistrySettings} :
    RegistrySettings.fields.ofEntries {} es = .ok r ↔
      Key.initialCapacity.read (es.lookup "initial_capacity") = .ok r.initialCapacity ∧
      Key.machine.read (es.lookup "machine") = .ok r.machine ∧
      Key.stallWarning.read (es.lookup "stall_warning") = .ok r.stallWarning := by
  rw [registry_ofEntries]
  constructor
  · intro h
    obtain ⟨initialCapacity, hcapacity, h⟩ := bind_eq_ok_iff.1 h
    obtain ⟨machine, hmachine, h⟩ := bind_eq_ok_iff.1 h
    obtain ⟨stallWarning, hwarning, h⟩ := bind_eq_ok_iff.1 h
    rw [← Except.ok.inj h]
    exact ⟨hcapacity, hmachine, hwarning⟩
  · rintro ⟨hcapacity, hmachine, hwarning⟩
    rw [hcapacity, hmachine, hwarning]
    rfl

/-- A logging section is taken if each of its keys is, and gives what they give. -/
theorem log_ofEntries_eq_ok_iff {es : Entries} {l : LogSettings} :
    LogSettings.fields.ofEntries {} es = .ok l ↔
      Key.fileStem.read (es.lookup "file_prefix") = .ok l.fileStem ∧
      Key.level.read (es.lookup "level") = .ok l.level ∧
      Key.directory.read (es.lookup "log_dir") = .ok l.directory ∧
      Key.maxFiles.read (es.lookup "max_log_files") = .ok l.maxFiles ∧
      Key.rotation.read (es.lookup "rotation") = .ok l.rotation := by
  rw [log_ofEntries]
  constructor
  · intro h
    obtain ⟨fileStem, hstem, h⟩ := bind_eq_ok_iff.1 h
    obtain ⟨level, hlevel, h⟩ := bind_eq_ok_iff.1 h
    obtain ⟨directory, hdirectory, h⟩ := bind_eq_ok_iff.1 h
    obtain ⟨maxFiles, hmax, h⟩ := bind_eq_ok_iff.1 h
    obtain ⟨rotation, hrotation, h⟩ := bind_eq_ok_iff.1 h
    rw [← Except.ok.inj h]
    exact ⟨hstem, hlevel, hdirectory, hmax, hrotation⟩
  · rintro ⟨hstem, hlevel, hdirectory, hmax, hrotation⟩
    rw [hstem, hlevel, hdirectory, hmax, hrotation]
    rfl

/-- The entries of a section that is a table or absent. -/
def sectionOf (name : String) (entries : Entries) : Entries :=
  match entries.lookup name with
  | some (.table es) => es
  | _ => []

/-- Without entries every field is left as it is. -/
theorem ofEntries_nil {S : Type} (s : Section S) (defaults : S) :
    s.ofEntries defaults [] = .ok defaults := by
  unfold Section.ofEntries
  induction s.byKey with
  | nil => rfl
  | cons f fs ih => exact ih

/-- A section that is a table or absent is read by its entries. -/
theorem read_sectionOf {S : Type} (s : Section S) (defaults : S) {name : String} {entries : Entries}
    (hreadable : ∀ e ∈ entries, e.2.isReadable = true)
    (htable : ∀ v, entries.lookup name = some v → ∃ es, v = .table es) :
    s.read defaults (entries.lookup name) = s.ofEntries defaults (sectionOf name entries) := by
  unfold sectionOf
  cases hsection : entries.lookup name with
  | none => exact (ofEntries_nil s defaults).symm
  | some v =>
    obtain ⟨es, rfl⟩ := htable v hsection
    have hes : ∀ e ∈ es, e.2.isReadable = true :=
      Value.isReadable_table_iff.1 (hreadable _ (Toml.mem_of_lookup hsection))
    have hall : (es.all fun e => s.knows e.1 || e.2.isReadable) = true :=
      List.all_eq_true.2 fun e he => by rw [hes e he, Bool.or_true]
    show s.ofEntries defaults es >>= _ = s.ofEntries defaults es
    rw [hall]
    exact bind_pure _

/-! ## Documents -/

/-- What a document gives for a setting is in the entries of its section. -/
theorem Key.valueIn_eq (k : Key) (entries : Entries) :
    k.valueIn entries = (sectionOf k.sectionName entries).lookup k.name := by
  unfold valueIn sectionOf
  split <;> rfl

/-- The sections of a document are tables or absent, and every number can be held. -/
structure HasTables (entries : Entries) : Prop where
  /-- Every number of every value can be held. -/
  readable : ∀ e ∈ entries, e.2.isReadable = true
  /-- The sections are tables. -/
  tables : ∀ e ∈ entries, knows e.1 = true → ∃ es, e.2 = .table es

namespace HasTables

variable {entries entries' : Entries}

/-- A document is read section by section. -/
theorem ofEntries_eq (h : HasTables entries) :
    ofEntries entries = (do
      let log ← LogSettings.fields.ofEntries {} (sectionOf "logging" entries)
      let registry ← RegistrySettings.fields.ofEntries {} (sectionOf "registry" entries)
      return { registry, log }) := by
  have hall : (entries.all fun e => knows e.1 || e.2.isReadable) = true :=
    List.all_eq_true.2 fun e he => by rw [h.readable e he, Bool.or_true]
  have htable : ∀ name, knows name = true → ∀ v, entries.lookup name = some v → ∃ es, v = .table es :=
    fun name hname v hv => h.tables (name, v) (Toml.mem_of_lookup hv) hname
  unfold ofEntries
  rw [read_sectionOf _ _ h.readable (htable _ rfl), read_sectionOf _ _ h.readable (htable _ rfl), hall]
  rfl

/-- Settings are those of a document exactly if each has what the document gives for its key, or the
default. -/
theorem ofEntries_eq_ok_iff (h : HasTables entries) {s : Settings} :
    ofEntries entries = .ok s ↔ ∀ k : Key, k.read (k.valueIn entries) = .ok (k.get s) := by
  simp only [Key.valueIn_eq]
  rw [h.ofEntries_eq]
  constructor
  · intro hs
    obtain ⟨log, hlog, hs⟩ := bind_eq_ok_iff.1 hs
    obtain ⟨registry, hregistry, hs⟩ := bind_eq_ok_iff.1 hs
    obtain ⟨hstem, hlevel, hdirectory, hmax, hrotation⟩ := log_ofEntries_eq_ok_iff.1 hlog
    obtain ⟨hcapacity, hmachine, hwarning⟩ := registry_ofEntries_eq_ok_iff.1 hregistry
    rw [← Except.ok.inj hs]
    intro k
    cases k <;> assumption
  · intro hs
    have hlog : LogSettings.fields.ofEntries {} (sectionOf "logging" entries) = .ok s.log :=
      log_ofEntries_eq_ok_iff.2 ⟨hs .fileStem, hs .level, hs .directory, hs .maxFiles, hs .rotation⟩
    have hregistry : RegistrySettings.fields.ofEntries {} (sectionOf "registry" entries) =
        .ok s.registry :=
      registry_ofEntries_eq_ok_iff.2 ⟨hs .initialCapacity, hs .machine, hs .stallWarning⟩
    rw [hlog, hregistry]
    rfl

/-- A document gives settings exactly if each setting takes what the document gives for it. -/
theorem exists_ofEntries_iff (h : HasTables entries) :
    (∃ s, ofEntries entries = .ok s) ↔ ∀ k : Key, ∃ x, k.read (k.valueIn entries) = .ok x := by
  constructor
  · rintro ⟨s, hs⟩ k
    exact ⟨k.get s, h.ofEntries_eq_ok_iff.1 hs k⟩
  · intro hread
    choose content hcontent using hread
    -- The settings are put together from what was taken for each key.
    exact ⟨Key.settings content, h.ofEntries_eq_ok_iff.2 fun k => by rw [Key.get_settings, hcontent]⟩

/-- Documents that give the same for every setting are read the same. -/
theorem ofEntries_congr (h : HasTables entries) (h' : HasTables entries')
    (hsame : ∀ k : Key, k.valueIn entries' = k.valueIn entries) :
    ofEntries entries' = ofEntries entries := by
  simp only [Key.valueIn_eq] at hsame
  have hlog : LogSettings.fields.ofEntries {} (sectionOf "logging" entries') =
      LogSettings.fields.ofEntries {} (sectionOf "logging" entries) := by
    have hstem := hsame .fileStem
    have hlevel := hsame .level
    have hdirectory := hsame .directory
    have hmax := hsame .maxFiles
    have hrotation := hsame .rotation
    simp only [Key.sectionName, Key.name] at hstem hlevel hdirectory hmax hrotation
    rw [log_ofEntries, log_ofEntries, hstem, hlevel, hdirectory, hmax, hrotation]
  have hregistry : RegistrySettings.fields.ofEntries {} (sectionOf "registry" entries') =
      RegistrySettings.fields.ofEntries {} (sectionOf "registry" entries) := by
    have hcapacity := hsame .initialCapacity
    have hmachine := hsame .machine
    have hwarning := hsame .stallWarning
    simp only [Key.sectionName, Key.name] at hcapacity hmachine hwarning
    rw [registry_ofEntries, registry_ofEntries, hcapacity, hmachine, hwarning]
  rw [h.ofEntries_eq, h'.ofEntries_eq, hlog, hregistry]

end HasTables

/-- The document with one of its keys and nothing else has a table as well. -/
theorem HasTables.only {entries : Entries} (h : HasTables entries) {k : Key} {v : Value}
    (hv : k.IsGiven v entries) : HasTables (k.only v) where
  readable e he := by
    obtain ⟨es, hsection, hkey⟩ := hv
    have hes := Value.isReadable_table_iff.1 (h.readable _ hsection)
    rw [List.mem_singleton.1 he]
    refine Value.isReadable_table_iff.2 fun e' he' => ?_
    rw [List.mem_singleton.1 he']
    exact hes _ hkey
  tables e he _ := k.only_tables v e he

/-- With one key alone a document gives settings if the setting takes the value, which is what the
settings have then. -/
theorem HasTables.ofDocument_only {entries : Entries} (h : HasTables entries) {k : Key} {v : Value}
    (hv : k.IsGiven v entries) {s : Settings} (hs : ofDocument (k.only v) = .ok s) :
    k.take v = .ok (k.get s) := by
  have hread := (h.only hv).ofEntries_eq_ok_iff.1 (ofDocument_eq_ok_iff.1 hs) k
  rwa [Key.valueIn_only, if_pos rfl] at hread

/-- With one key alone a document gives settings exactly if the setting takes the value. -/
theorem HasTables.exists_ofDocument_only_iff {entries : Entries} (h : HasTables entries) {k : Key}
    {v : Value} (hv : k.IsGiven v entries) :
    (∃ s, ofDocument (k.only v) = .ok s) ↔ ∃ x, k.take v = .ok x := by
  simp only [ofDocument_eq_ok_iff]
  rw [(h.only hv).exists_ofEntries_iff]
  constructor
  · intro hread
    obtain ⟨x, hx⟩ := hread k
    rw [Key.valueIn_only, if_pos rfl] at hx
    exact ⟨x, hx⟩
  · rintro ⟨x, hx⟩ k'
    rw [Key.valueIn_only]
    split_ifs with hk
    · subst hk
      exact ⟨x, hx⟩
    · exact ⟨k'.get {}, rfl⟩

/-- A text stands for a document in which the sections are tables or absent, and every integer is
within the bounds of the language. -/
structure StandsFor (text : String) (entries : Entries) : Prop where
  /-- The document is that of the text. -/
  parse : Toml.parse text = some entries
  /-- Its integers fit in 64 bits with a sign. -/
  integers : (Value.table entries).integersFit = true
  /-- Its sections are tables. -/
  tables : ∀ e ∈ entries, knows e.1 = true → ∃ es, e.2 = .table es

namespace StandsFor

variable {text : String} {entries : Entries}

/-- If no float is beyond the largest double, the sections can be read as tables. -/
theorem hasTables (h : StandsFor text entries)
    (hreadable : (Value.table entries).isReadable = true) : HasTables entries where
  readable := Value.isReadable_table_iff.1 hreadable
  tables := h.tables

/-- The document gives at most one value for a setting. -/
theorem isGiven_iff (h : StandsFor text entries) {k : Key} {v : Value} :
    k.IsGiven v entries ↔ k.valueIn entries = some v :=
  Key.isGiven_iff (Toml.tidy_of_parse h.parse)

/-- A document whose floats can be held gives settings if each of its keys alone does. -/
theorem exists_ofDocument_iff (h : StandsFor text entries)
    (hreadable : (Value.table entries).isReadable = true) :
    (∃ s, ofDocument entries = .ok s) ↔
      ∀ (k : Key) v, k.IsGiven v entries → ∃ s, ofDocument (k.only v) = .ok s := by
  have htables := h.hasTables hreadable
  simp only [ofDocument_eq_ok_iff]
  rw [htables.exists_ofEntries_iff]
  simp only [← ofDocument_eq_ok_iff]
  -- A key that is given asks the same of both sides, and one that is not asks nothing of either.
  refine forall_congr' fun k => ?_
  cases hk : k.valueIn entries with
  | none =>
    have hnone : ∀ v, ¬ k.IsGiven v entries := fun v hv => by simp [h.isGiven_iff.1 hv] at hk
    exact iff_of_true ⟨_, rfl⟩ fun v hv => absurd hv (hnone v)
  | some v =>
    have hv : k.IsGiven v entries := h.isGiven_iff.2 hk
    have hread : (∃ x, k.read (some v) = .ok x) ↔ ∃ s, ofDocument (k.only v) = .ok s :=
      (htables.exists_ofDocument_only_iff hv).symm
    rw [hread]
    constructor
    · intro htaken v' hv'
      rwa [← Option.some.inj (hk.symm.trans (h.isGiven_iff.1 hv'))]
    · exact fun htaken => htaken v hv

end StandsFor

/-! ### Numbers that cannot be held -/

/-- A value that a setting takes holds no number that cannot be held. -/
theorem Key.isReadable_of_take {k : Key} {v : Value} {x : k.Content} (h : k.take v = .ok x) :
    v.isReadable = true := by
  -- Each kind of setting takes only some kinds of values, and an overlong number is of none.
  have hcount : ∀ {n}, Setting.count v = .ok n → v.isReadable = true := by
    intro n hn
    cases v <;> first | rfl | cases hn
  have htext : ∀ {wanted s}, Setting.text wanted v = .ok s → v.isReadable = true := by
    intro wanted s hs
    cases v <;> first | rfl | cases hs
  have hword : ∀ {α : Type} {ofName? : String → Option α} {known x},
      Setting.word ofName? known v = .ok x → v.isReadable = true := by
    intro α ofName? known x hx
    unfold Setting.word at hx
    split at hx
    · rfl
    · cases hx
    · obtain ⟨y, -, hx⟩ := bind_eq_ok_iff.1 hx
      split at hx <;> first | rfl | cases hx
    · cases hx
    · cases hx
  cases k with
  | initialCapacity => exact hcount h
  | maxFiles => exact hcount h
  | machine => exact hword h
  | rotation => exact hword h
  | stallWarning => cases v <;> first | rfl | cases h
  | level => exact htext h
  | fileStem => exact htext h
  | directory =>
    obtain ⟨s, hs, -⟩ := bind_eq_ok_iff.1 (show Setting.text "path string" v >>= _ = _ from h)
    exact htext hs

/-- A key that is read, and is there, holds no such number either. -/
theorem Key.isReadable_of_read {k : Key} {es : Entries} {e : String × Value} {x : k.Content}
    (hkeys : (es.map (·.1)).Nodup) (he : e ∈ es) (hname : k.name = e.1)
    (h : k.read (es.lookup k.name) = .ok x) : e.2.isReadable = true := by
  rw [hname, Toml.lookup_of_mem hkeys he] at h
  exact Key.isReadable_of_take h

/-- A section that is taken holds no such number, if that is so of its known keys. -/
theorem isReadable_of_section {S : Type} {s : Section S} {defaults r : S} {es : Entries}
    (hknown : ∀ r, s.ofEntries defaults es = .ok r → ∀ e ∈ es, s.knows e.1 = true →
      e.2.isReadable = true)
    (h : s.read defaults (some (.table es)) = .ok r) : (Value.table es).isReadable = true := by
  obtain ⟨settings, hsettings, h⟩ := bind_eq_ok_iff.1 h
  have hall : (es.all fun e => s.knows e.1 || e.2.isReadable) = true := by
    -- A section with a number under an unknown key that cannot be held is refused at the end.
    by_contra hnot
    rw [if_neg hnot] at h
    cases h
  refine Value.isReadable_table_iff.2 fun e he => ?_
  rcases Bool.or_eq_true_iff.1 (List.all_eq_true.1 hall e he) with hk | hreadable
  · exact hknown settings hsettings e he hk
  · exact hreadable

/-- A registry section that is taken can be held: its known keys were, and the others have been
looked at. -/
theorem isReadable_of_registry {es : Entries} {r : RegistrySettings}
    (hkeys : (es.map (·.1)).Nodup)
    (h : RegistrySettings.fields.read {} (some (.table es)) = .ok r) :
    (Value.table es).isReadable = true := by
  refine isReadable_of_section (fun r hr e he hk => ?_) h
  obtain ⟨hcapacity, hmachine, hwarning⟩ := registry_ofEntries_eq_ok_iff.1 hr
  obtain ⟨f, hf, hname⟩ := List.any_eq_true.1 hk
  simp only [RegistrySettings.fields, List.mem_cons, List.not_mem_nil, or_false] at hf
  rcases hf with rfl | rfl | rfl <;> rw [beq_iff_eq] at hname
  · exact Key.isReadable_of_read (k := .initialCapacity) hkeys he hname hcapacity
  · exact Key.isReadable_of_read (k := .machine) hkeys he hname hmachine
  · exact Key.isReadable_of_read (k := .stallWarning) hkeys he hname hwarning

/-- A logging section that is taken can be held. -/
theorem isReadable_of_log {es : Entries} {l : LogSettings} (hkeys : (es.map (·.1)).Nodup)
    (h : LogSettings.fields.read {} (some (.table es)) = .ok l) :
    (Value.table es).isReadable = true := by
  refine isReadable_of_section (fun r hr e he hk => ?_) h
  obtain ⟨hstem, hlevel, hdirectory, hmax, hrotation⟩ := log_ofEntries_eq_ok_iff.1 hr
  obtain ⟨f, hf, hname⟩ := List.any_eq_true.1 hk
  simp only [LogSettings.fields, List.mem_cons, List.not_mem_nil, or_false] at hf
  rcases hf with rfl | rfl | rfl | rfl | rfl <;> rw [beq_iff_eq] at hname
  · exact Key.isReadable_of_read (k := .fileStem) hkeys he hname hstem
  · exact Key.isReadable_of_read (k := .level) hkeys he hname hlevel
  · exact Key.isReadable_of_read (k := .directory) hkeys he hname hdirectory
  · exact Key.isReadable_of_read (k := .maxFiles) hkeys he hname hmax
  · exact Key.isReadable_of_read (k := .rotation) hkeys he hname hrotation

/-- A document that is taken holds no number that cannot be held. -/
theorem isReadable_of_ofEntries {entries : Entries} {s : Settings}
    (htidy : (Value.table entries).Tidy)
    (htables : ∀ e ∈ entries, knows e.1 = true → ∃ es, e.2 = .table es)
    (h : ofEntries entries = .ok s) : (Value.table entries).isReadable = true := by
  obtain ⟨log, hlog, h⟩ := bind_eq_ok_iff.1 h
  obtain ⟨registry, hregistry, h⟩ := bind_eq_ok_iff.1 h
  have hall : (entries.all fun e => knows e.1 || e.2.isReadable) = true := by
    by_contra hnot
    rw [if_neg hnot] at h
    cases h
  refine Value.isReadable_table_iff.2 fun e he => ?_
  rcases Bool.or_eq_true_iff.1 (List.all_eq_true.1 hall e he) with hk | hreadable
  -- A known section is a table, in which no name stands twice either.
  · cases htidy with
    | leaf hleaf => exact absurd rfl (hleaf.not_table _)
    | table hkeys hvalues =>
      obtain ⟨es, hes⟩ := htables e he hk
      have hsection : entries.lookup e.1 = some (.table es) := hes ▸ Toml.lookup_of_mem hkeys he
      have hnames : (es.map (·.1)).Nodup := by
        have htable := hvalues e he
        rw [hes] at htable
        cases htable with
        | leaf hleaf => exact absurd rfl (hleaf.not_table _)
        | table hnames _ => exact hnames
      show e.2.isReadable = true
      rw [hes]
      rcases Bool.or_eq_true_iff.1 hk with hname | hname <;> rw [beq_iff_eq.1 hname] at hsection
      · rw [hsection] at hregistry
        exact isReadable_of_registry hnames hregistry
      · rw [hsection] at hlog
        exact isReadable_of_log hnames hlog
  · exact hreadable

/-- A text with a number that cannot be held, be it an integer or a float, is no document. -/
theorem ofText_of_not_readable {text : String} {entries : Entries}
    (hparse : Toml.parse text = some entries)
    (htables : ∀ e ∈ entries, knows e.1 = true → ∃ es, e.2 = .table es)
    (hnot : (Value.table entries).isReadable = false) : ofText text = .error .malformed := by
  have hfits : (Value.table entries).fitsLanguage = false := by
    unfold Value.fitsLanguage
    rw [hnot, Bool.and_false]
  rw [ofText_eq hparse, ofDocument]
  cases h : ofEntries entries with
  | ok s =>
    simp [isReadable_of_ofEntries (Toml.tidy_of_parse hparse) htables h] at hnot
  | error reason => rw [hfits]; rfl

/-- Settings are read key by key, over the defaults. A text that stands for a document in which the
sections are tables or absent and every integer is within the bounds of the language is taken exactly
if no float in it is beyond the largest double, whatever its key, and if, for each setting for which
the document gives a value, the document with that key and that value and nothing else is taken. The
settings then have what those documents give for the keys that are there, and the default for every
key that is not. And nothing else has a part in it: two such texts that give the same values for the
eight settings come to the same, be it settings or a refusal, in whatever order their keys and
sections stand and whatever other keys and sections they have, if both or none of them have a float
beyond the largest double. -/
theorem settings_are_read_key_by_key {text : String} {entries : Entries}
    (h : StandsFor text entries) :
    ((∃ s, ofText text = .ok s) ↔ (Value.table entries).isReadable = true ∧
        ∀ (k : Key) v, k.IsGiven v entries → ∃ s, ofDocument (k.only v) = .ok s) ∧
      (∀ s, ofText text = .ok s → ∀ k : Key,
        (∀ v s', k.IsGiven v entries → ofDocument (k.only v) = .ok s' → k.get s = k.get s') ∧
        ((∀ v, ¬ k.IsGiven v entries) → k.get s = k.get {})) ∧
      ∀ text' entries', StandsFor text' entries' →
        (Value.table entries').isReadable = (Value.table entries).isReadable →
        (∀ (k : Key) v, k.IsGiven v entries' ↔ k.IsGiven v entries) → ofText text' = ofText text := by
  have hreadable : ∀ s, ofText text = .ok s → (Value.table entries).isReadable = true := by
    intro s hs
    rw [ofText_eq h.parse, ofDocument_eq_ok_iff] at hs
    exact isReadable_of_ofEntries (Toml.tidy_of_parse h.parse) h.tables hs
  refine ⟨⟨fun ⟨s, hs⟩ => ⟨hreadable s hs, ?_⟩, fun ⟨hheld, htaken⟩ => ?_⟩,
    fun s hs k => ?_, fun text' entries' h' hheld hsame => ?_⟩
  · rw [← h.exists_ofDocument_iff (hreadable s hs), ← ofText_eq h.parse]
    exact ⟨s, hs⟩
  · rw [ofText_eq h.parse]
    exact (h.exists_ofDocument_iff hheld).2 htaken
  · have htables := h.hasTables (hreadable s hs)
    rw [ofText_eq h.parse, ofDocument_eq_ok_iff] at hs
    have hread := htables.ofEntries_eq_ok_iff.1 hs k
    refine ⟨fun v s' hv hs' => ?_, fun hnone => ?_⟩
    · rw [h.isGiven_iff.1 hv] at hread
      exact Except.ok.inj (hread.symm.trans (htables.ofDocument_only hv hs'))
    · have hk : k.valueIn entries = none :=
        Option.eq_none_iff_forall_ne_some.2 fun v hv => hnone v (h.isGiven_iff.2 hv)
      rw [hk] at hread
      exact (Except.ok.inj hread).symm
  · cases hall : (Value.table entries).isReadable with
    | false =>
      rw [hall] at hheld
      rw [ofText_of_not_readable h'.parse h'.tables hheld, ofText_of_not_readable h.parse h.tables hall]
    | true =>
      rw [hall] at hheld
      -- The same values are given, so the same are looked up, and both texts fit the language or
      -- neither.
      have hvalues : ∀ k : Key, k.valueIn entries' = k.valueIn entries := by
        intro k
        ext v
        rw [← h'.isGiven_iff, ← h.isGiven_iff]
        exact hsame k v
      have hentries : ofEntries entries' = ofEntries entries :=
        (h.hasTables hall).ofEntries_congr (h'.hasTables hheld) hvalues
      have hfits : (Value.table entries').fitsLanguage = (Value.table entries).fitsLanguage := by
        unfold Value.fitsLanguage
        rw [h'.integers, h.integers, hheld, hall]
      rw [ofText_eq h'.parse, ofText_eq h.parse]
      unfold ofDocument
      rw [hentries, hfits]

/-- A document with one key that is not known, and a float beyond the largest double behind it. -/
theorem standsFor_overflowingFloat : StandsFor "x = 1e400" [("x", .hugeFloat)] where
  parse := by cbv
  integers := rfl
  tables e he hk := by
    obtain rfl := List.mem_singleton.1 he
    exact absurd hk (by decide)

/-- Not only the known keys count: a document without any, all integers of which are within the bounds
of the language, is refused for its float. -/
theorem overflowing_float_is_refused :
    StandsFor "x = 1e400" [("x", .hugeFloat)] ∧
      (∀ (k : Key) v, ¬ k.IsGiven v [("x", .hugeFloat)]) ∧
      ofText "x = 1e400" = .error .malformed ∧
      ¬ ((∃ s, ofText "x = 1e400" = .ok s) ↔
        ∀ (k : Key) v, k.IsGiven v [("x", .hugeFloat)] → ∃ s, ofDocument (k.only v) = .ok s) := by
  have hnone : ∀ (k : Key) v, ¬ k.IsGiven v [("x", .hugeFloat)] := by
    intro k v
    cases k <;> simp [Key.IsGiven, Key.sectionName]
  have hrefused : ofText "x = 1e400" = .error .malformed :=
    ofText_of_not_readable standsFor_overflowingFloat.parse standsFor_overflowingFloat.tables rfl
  refine ⟨standsFor_overflowingFloat, hnone, hrefused, fun hiff => ?_⟩
  obtain ⟨s, hs⟩ := hiff.2 fun k v hv => absurd hv (hnone k v)
  simp [hrefused] at hs

/-- The name of the first section can be written without quotes. -/
theorem isBareKey_registry : Toml.IsBareKey "registry" := by decide

/-- The name of the machine's key can be written without quotes. -/
theorem isBareKey_machine : Toml.IsBareKey "machine" := by decide

/-- A document with two keys that are not known, one of them in a section that is not. -/
def documentWithUnknownKeys : List Toml.WrittenTable :=
  [{ name := "registry"
     assignments := [.text "machine" isBareKey_machine "vic20", .text "colour" (by decide) "green"]
     isBareKey := isBareKey_registry
     nodup_keys := by decide },
   { name := "theme"
     assignments := [.text "font" (by decide) "mono"]
     isBareKey := by decide
     nodup_keys := by decide }]

/-- What the text of that document stands for. -/
theorem standsFor_documentWithUnknownKeys : StandsFor
    "[registry]\nmachine = \"vic20\"\ncolour = \"green\"\n\n[theme]\nfont = \"mono\"\n"
    [("registry", .table [("machine", .string "vic20"), ("colour", .string "green")]),
      ("theme", .table [("font", .string "mono")])] where
  parse := by
    have hnames : (documentWithUnknownKeys.map (·.name)).Nodup := by decide
    exact Toml.parse_document hnames (by decide)
  integers := rfl
  tables e he _ := by
    rcases List.mem_cons.1 he with rfl | he
    · exact ⟨_, rfl⟩
    · rw [List.mem_singleton.1 he]
      exact ⟨_, rfl⟩

/-- Unknown keys are passed over: of the document above only the machine is taken. -/
theorem machine_is_taken_among_unknown_keys :
    ∃ s, ofText
      "[registry]\nmachine = \"vic20\"\ncolour = \"green\"\n\n[theme]\nfont = \"mono\"\n" = .ok s ∧
      Key.machine.get s = .vic20 ∧ Key.level.get s = "info" := by
  obtain ⟨htaken, hvalues, -⟩ := settings_are_read_key_by_key standsFor_documentWithUnknownKeys
  have hgiven : ∀ (k : Key) v, k.IsGiven v
      [("registry", .table [("machine", .string "vic20"), ("colour", .string "green")]),
        ("theme", .table [("font", .string "mono")])] ↔ k = .machine ∧ v = .string "vic20" := by
    intro k v
    cases k <;> simp [Key.IsGiven, Key.sectionName, Key.name]
  have hmachine : ofDocument (Key.machine.only (.string "vic20")) =
      .ok { registry := { machine := .vic20 } } := rfl
  obtain ⟨s, hs⟩ := htaken.2 ⟨rfl, fun k v hv => by
    obtain ⟨rfl, rfl⟩ := (hgiven k v).1 hv
    exact ⟨_, hmachine⟩⟩
  refine ⟨s, hs, ?_, ?_⟩
  · exact (hvalues s hs .machine).1 _ _ ((hgiven _ _).2 ⟨rfl, rfl⟩) hmachine
  · exact (hvalues s hs .level).2 fun v hv => Key.noConfusion ((hgiven _ _).1 hv).1

end Settings

end Switchboard
