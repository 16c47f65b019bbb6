import Switchboard.FileTree
import Switchboard.Notice
import Switchboard.Settings.Text

/-!
# Settings files

Settings are kept in a file. Where there is none yet, loading writes one with the defaults; what is
there is never written by loading. Saving makes the directories that lead to the file.
-/

namespace Switchboard.Settings

/-- What came of using a settings file. -/
structure Stored (α : Type) where
  /-- What was asked for, or why it could not be had. -/
  answer : Except ActionError α
  /-- The files afterwards. -/
  tree : FileTree
  /-- What was noticed. -/
  notices : List Notice

/-- Writes settings to a file. -/
def saveTo (s : Settings) (path : FilePath) (t : FileTree) : Stored Unit :=
  let notices := [Notice.savingSettings path.text]
  match t.createDirectory path.directory with
  | (.error e, t) => ⟨.error (.settingsFile path.directory.text e), t, notices⟩
  | (.ok _, t) =>
    match t.write path s.render.toUTF8 with
    | .error e => ⟨.error (.settingsFile path.text e), t, notices⟩
    | .ok t => ⟨.ok (), t, notices⟩

/-- Reads the settings of a file that is there. -/
def readFrom (path : FilePath) (t : FileTree) : Except ActionError Settings :=
  match t.readText path with
  | .error e => .error (.settingsFile path.text e)
  | .ok text =>
    match ofText text with
    | .error e => .error (.settingsText e)
    | .ok s => .ok s

/-- Reads the settings of a file, or writes the defaults to it if there is none. -/
def loadFrom (path : FilePath) (t : FileTree) : Stored Settings :=
  match t.isThere path with
  | .error e => ⟨.error (.settingsFile path.text e), t, []⟩
  | .ok true => ⟨readFrom path t, t, [.loadingSettings path.text]⟩
  | .ok false =>
    let saved := saveTo {} path t
    ⟨saved.answer.map fun _ => {}, saved.tree, .noSettings path.text :: saved.notices⟩

/-- The directory of settings: below the directory for configuration if an absolute one is given,
and below the user's home otherwise. -/
def directory (home : FilePath) (config : Option FilePath) : FilePath :=
  let base := match config with
    | some c => if c.isAbsolute then c else home.join ".config"
    | none => home.join ".config"
  base.join "uiactions"

/-- The settings file. -/
def file (home : FilePath) (config : Option FilePath) : FilePath :=
  (directory home config).join "config.toml"

end Switchboard.Settings
