import Switchboard.Error
import Switchboard.FileTree
import Switchboard.LogFilter
import Switchboard.Settings.Basic

/-!
# Setting up log output

Log output has a filter and, if a directory is given, a file. Setting it up goes through three
stages, the filter, the file and the installation, and each may fail; what an earlier stage made is
there even if a later one fails. Log output can be installed once only.
-/

namespace Switchboard.LogSettings

/-- The name of the log file of a period. A file that is never changed for another has no period in
its name. -/
def fileName (s : LogSettings) (period : String) : String :=
  let parts := [s.fileStem, if s.rotation = .never then "" else period, "jsonl"]
  ".".intercalate (parts.filter (· != ""))

/-- The files with a log file in a directory, which it is added to if it is there. -/
def openFile (path : FilePath) (t : FileTree) : Except ActionError Unit × FileTree :=
  let opened (t : FileTree) : Except IoError FileTree :=
    match t.read path with
    | .ok _ => .ok t
    | .error _ => t.write path ByteArray.empty
  match opened t with
  | .ok t => (.ok (), t)
  | .error _ =>
    match t.createDirectory path.directory with
    | (.error e, t) => (.error (.logSetup s!"failed to create log directory: {e.message}"), t)
    | (.ok _, t) =>
      match opened t with
      | .ok t => (.ok (), t)
      | .error e => (.error (.logSetup s!"failed to create initial log file: {e.message}"), t)

/-- Sets up log output during a period, given whether some is installed already. -/
def setUp (s : LogSettings) (period : String) (installed : Bool) (t : FileTree) :
    Except ActionError Unit × FileTree :=
  match LogFilter.error? s.level with
  | some e => (.error (.logSetup e.message), t)
  | none =>
    let made : Except ActionError Unit × FileTree :=
      match s.directory with
      | none => (.ok (), t)
      | some d =>
        match t.createDirectory (.ofText d) with
        | (.error e, t) => (.error (.io e), t)
        | (.ok _, t) => openFile ((FilePath.ofText d).join (s.fileName period)) t
    match made with
    | (.error e, t) => (.error e, t)
    | (.ok _, t) =>
      if installed then
        (.error (.logSetup "a global default trace dispatcher has already been set"), t)
      else (.ok (), t)

end Switchboard.LogSettings
