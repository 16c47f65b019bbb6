import Switchboard.Duration.Text
import Switchboard.Error
import Switchboard.Settings.Basic
import Switchboard.Toml.Document

/-!
# Settings as text

Settings are read out of a TOML document: a table `registry` and a table `logging`, each with a key
for every setting. A key that is absent leaves its setting at the default, and a key that is not
known is passed over. Either section may also be given as an array of its settings in order.

A value that a setting does not take is refused with a reason. The keys are gone through in
alphabetical order, and the first refusal counts. In a document that holds a number beyond the
bounds of the language any refusal is one of the document.

Settings are written as a TOML document with every setting in it, so that reading it needs no
defaults; only the directory of log files is left out if there is none.
-/

namespace Switchboard

open Toml (Value Entries)

namespace Setting

/-- A setting that is read out of a value, or the reason for which the value is refused. -/
abbrev Reading (α : Type) := Value → Except String α

/-- A number that fits in 64 bits without a sign. -/
def count : Reading UInt64
  | .integer n =>
    if n < 0 then .error ((Unexpected.integer n).wrongValue "usize")
    else if n < UInt64.size then .ok (UInt64.ofNat n.toNat)
    else .error ((Unexpected.integer n).wrongType "usize")
  | v => .error (v.unexpected.wrongType "usize")

/-- A text, given what a text is called here. -/
def text (wanted : String) : Reading String
  | .string s => .ok s
  | v => .error (v.unexpected.wrongType wanted)

/-- A length of time. -/
def duration : Reading Duration
  | .string s =>
    match Duration.ofText? s with
    | some d => .ok d
    | none => .error ((Unexpected.string s).wrongValue "a duration")
  | v => .error (v.unexpected.wrongType "a duration")

/-- One of a few words. The word may also be the only key of a table, with nothing behind it. -/
def word {α : Type} (ofName? : String → Option α) (known : List String) : Reading α
  | .string s => named s
  | .table [] => .error "wanted exactly 1 element, found 0 elements"
  | .table [(s, behind)] => do
    let x ← named s
    match behind with
    | .table [] | .array [] => return x
    | .table _ => throw "expected empty table"
    | .array _ => throw "expected empty array"
    | v => throw s!"expected table, found {v.kind}"
  | .table _ => .error "wanted exactly 1 element, more than 1 element"
  | _ => .error "wanted string or table"
where
  /-- The word with a given name. -/
  named (s : String) : Except String α :=
    match ofName? s with
    | some x => .ok x
    | none => .error (unknownVariant s known)

/-- A machine. -/
def machine : Reading Machine := word Machine.ofName? (Machine.all.map (·.name))

/-- A rotation of log files. -/
def rotation : Reading Rotation := word Rotation.ofName? (Rotation.all.map (·.name))

end Setting

open Setting

/-- One setting of a section: its key, and how a value given for it is taken. -/
structure Field (S : Type) where
  /-- The key. -/
  key : String
  /-- The settings with this one as a value gives it, if the setting takes the value. -/
  set : S → Value → Except String S

/-- A section of settings. -/
structure Section (S : Type) where
  /-- The name of the section in refusals. -/
  name : String
  /-- The settings of the section, in the order in which an array gives them. -/
  inOrder : List (Field S)
  /-- The same settings, in alphabetical order of their keys. -/
  byKey : List (Field S)

namespace Section

variable {S : Type}

/-- Whether a key is that of a setting. -/
def knows (s : Section S) (key : String) : Bool := s.byKey.any (·.key == key)

/-- The settings that the entries of a table give, over some defaults. -/
def ofEntries (s : Section S) (defaults : S) (entries : Entries) : Except String S :=
  s.byKey.foldlM (fun acc f =>
    match entries.lookup f.key with
    | some v => f.set acc v
    | none => .ok acc) defaults

/-- The settings that the items of an array give, over some defaults. -/
def ofItems (s : Section S) (defaults : S) (items : List Value) : Except String S :=
  (s.inOrder.zip items).foldlM (fun acc (f, v) => f.set acc v) defaults

/-- The settings that a value gives, if there is one, over some defaults. A date or time given for
a section is taken for a table without known keys. -/
def read (s : Section S) (defaults : S) : Option Value → Except String S
  | none | some .datetime => .ok defaults
  | some (.table entries) => do
    let settings ← s.ofEntries defaults entries
    if entries.all fun (k, v) => s.knows k || v.isReadable then return settings
    else throw "number out of range"
  | some (.array items) => s.ofItems defaults items
  | some v => .error (v.unexpected.wrongType s!"struct {s.name}")

end Section

namespace RegistrySettings

/-- The setting `initial_capacity`. -/
def initialCapacityField : Field RegistrySettings :=
  ⟨"initial_capacity", fun s v => do return { s with initialCapacity := ← count v }⟩

/-- The setting `machine`. -/
def machineField : Field RegistrySettings :=
  ⟨"machine", fun s v => do return { s with machine := ← Setting.machine v }⟩

/-- The setting `stall_warning`. -/
def stallWarningField : Field RegistrySettings :=
  ⟨"stall_warning", fun s v => do return { s with stallWarning := ← duration v }⟩

/-- The section `registry`. -/
def fields : Section RegistrySettings where
  name := "RegistryConfig"
  inOrder := [initialCapacityField, machineField, stallWarningField]
  byKey := [initialCapacityField, machineField, stallWarningField]

end RegistrySettings

namespace LogSettings

/-- The setting `level`. -/
def levelField : Field LogSettings :=
  ⟨"level", fun s v => do return { s with level := ← text "a string" v }⟩

/-- The setting `log_dir`. -/
def directoryField : Field LogSettings :=
  ⟨"log_dir", fun s v => do return { s with directory := some (← text "path string" v) }⟩

/-- The setting `file_prefix`. -/
def fileStemField : Field LogSettings :=
  ⟨"file_prefix", fun s v => do return { s with fileStem := ← text "a string" v }⟩

/-- The setting `rotation`. -/
def rotationField : Field LogSettings :=
  ⟨"rotation", fun s v => do return { s with rotation := ← Setting.rotation v }⟩

/-- The setting `max_log_files`. -/
def maxFilesField : Field LogSettings :=
  ⟨"max_log_files", fun s v => do return { s with maxFiles := ← count v }⟩

/-- The section `logging`. -/
def fields : Section LogSettings where
  name := "LoggingConfig"
  inOrder := [levelField, directoryField, fileStemField, rotationField, maxFilesField]
  byKey := [fileStemField, levelField, directoryField, maxFilesField, rotationField]

end LogSettings

namespace Settings

/-- Whether a key is that of a section. -/
def knows (key : String) : Bool := key == "registry" || key == "logging"

/-- The settings of a document. -/
def ofEntries (entries : Entries) : Except String Settings := do
  let log ← LogSettings.fields.read {} (entries.lookup "logging")
  let registry ← RegistrySettings.fields.read {} (entries.lookup "registry")
  if entries.all fun (k, v) => knows k || v.isReadable then return { registry, log }
  else throw "number out of range"

/-- The settings of a document, or what is wrong with it. -/
def ofDocument (entries : Entries) : Except SettingsError Settings :=
  match ofEntries entries with
  | .ok s => .ok s
  | .error reason =>
    -- A number out of bounds does no harm in a document whose settings are all taken.
    if (Value.table entries).fitsLanguage then .error (.refused reason) else .error .malformed

/-- The settings that a text stands for. -/
def ofText (text : String) : Except SettingsError Settings :=
  match Toml.parse text with
  | none => .error .malformed
  | some entries => ofDocument entries

end Settings

/-! ## Writing -/

/-- One line of a settings file. -/
def settingLine (key : String) (value : String) : String := key ++ " = " ++ value ++ "\n"

/-- A text in quotes. -/
def quoted (s : String) : String := String.ofList (Toml.quoteText s.toList)

namespace RegistrySettings

/-- The section of a settings file. -/
def render (s : RegistrySettings) : String :=
  "[registry]\n"
    ++ settingLine "initial_capacity" (toString s.initialCapacity.toNat)
    ++ settingLine "machine" (quoted s.machine.name)
    ++ settingLine "stall_warning" (quoted s.stallWarning.render)

end RegistrySettings

namespace LogSettings

/-- The section of a settings file. -/
def render (s : LogSettings) : String :=
  "[logging]\n"
    ++ settingLine "level" (quoted s.level)
    ++ (match s.directory with
      | some d => settingLine "log_dir" (quoted d)
      | none => "")
    ++ settingLine "file_prefix" (quoted s.fileStem)
    ++ settingLine "rotation" (quoted s.rotation.name)
    ++ settingLine "max_log_files" (toString s.maxFiles.toNat)

end LogSettings

/-- The text of a settings file. -/
def Settings.render (s : Settings) : String := s.registry.render ++ "\n" ++ s.log.render

end Switchboard
