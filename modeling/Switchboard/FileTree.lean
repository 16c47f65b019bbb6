import Switchboard.FilePath
import Switchboard.IoError

/-!
# Trees of files

A tree of files says for each list of names whether there is a directory, a file with its bytes, or
nothing; the empty list is the root, which is always a directory. Operations go by a path and fail
as the operating system does: a name behind something that is no directory, a directory in the
place of a file, nothing at all.

The names of a path are followed one after the other, and each has to be that of a directory before
the next one counts, so a path that goes down into a missing directory and up again leads nowhere,
even if there is something where it would end. There are no links, no rights and no limits of space:
operations fail for what paths lead to and for nothing else.
-/

namespace Switchboard

/-- What there can be at a place of a tree. -/
inductive FileEntry
  | directory
  | file (content : ByteArray)

/-- Whether the entry is a directory. -/
def FileEntry.isDirectory : FileEntry → Bool
  | .directory => true
  | .file _ => false

/-- A tree of files. -/
structure FileTree where
  /-- What there is, by the names that lead to it; the root has no entry. -/
  entries : List (List String × FileEntry) := []
  /-- The place at which paths start that do not start at the root. -/
  base : List String := []

namespace FileTree

/-- The most bytes of a name. -/
def nameLimit : Nat := 255

/-- The bytes that a path does not reach. -/
def pathLimit : Nat := 4096

/-- What there is at a place. -/
def entry? (t : FileTree) (names : List String) : Option FileEntry :=
  if names.isEmpty then some .directory else t.entries.lookup names

/-- The tree with something put at a place, where there was nothing or something else. -/
def put (t : FileTree) (names : List String) (e : FileEntry) : FileTree :=
  { t with entries := (names, e) :: t.entries.filter fun old => old.1 != names }

/-- The place at which a path starts. -/
def origin (t : FileTree) (p : FilePath) : List String := if p.isAbsolute then [] else t.base

/-- The place to which a path leads, if everything on the way is there. -/
def place (t : FileTree) (p : FilePath) : List String := FilePath.follow (t.origin p) p.names

/-- Fails unless a path is one that the system takes at all. -/
def checkPath (p : FilePath) : Except IoError Unit :=
  if p.text.toList.contains '\x00' then .error .nulInPath
  else if p.text == "" then .error .notFound
  else if p.text.utf8ByteSize ≥ pathLimit then .error .nameTooLong
  else .ok ()

/-- Follows names from a place, through directories only, and gives the place to which they lead. -/
def walk (t : FileTree) (place : List String) : List String → Except IoError (List String)
  | [] => .ok place
  | name :: names =>
    if name.utf8ByteSize > nameLimit then .error .nameTooLong
    else match t.entry? (FilePath.next place name) with
      | none => .error .notFound
      | some (.file _) => .error .notADirectory
      | some .directory => walk t (FilePath.next place name) names

/-- The place of the last name of a path, if the names before it lead through directories. -/
def locate (t : FileTree) (p : FilePath) : Except IoError (List String) := do
  checkPath p
  let above ← t.walk (t.origin p) p.names.dropLast
  match p.names.getLast? with
  | none => return above
  | some name =>
    if name.utf8ByteSize > nameLimit then throw .nameTooLong
    return FilePath.next above name

/-- What there is at a path. A path that ends with a slash or a point is one of a directory. -/
def stat (t : FileTree) (p : FilePath) : Except IoError FileEntry := do
  match t.entry? (← t.locate p) with
  | none => throw .notFound
  | some (.file content) =>
    if p.endsWithSlash || p.endsWithPoint then throw .notADirectory else return .file content
  | some .directory => return .directory

/-- Whether there is something at a path. -/
def isThere (t : FileTree) (p : FilePath) : Except IoError Bool :=
  match t.stat p with
  | .ok _ => .ok true
  | .error e => if e = .notFound then .ok false else .error e

/-- The bytes of the file at a path. -/
def read (t : FileTree) (p : FilePath) : Except IoError ByteArray := do
  match ← t.stat p with
  | .file content => return content
  | .directory => throw .isADirectory

/-- The text of the file at a path. -/
def readText (t : FileTree) (p : FilePath) : Except IoError String := do
  match String.fromUTF8? (← t.read p) with
  | some s => return s
  | none => throw .notText

/-- The tree with a file at a path, in place of the file that was there. -/
def write (t : FileTree) (p : FilePath) (content : ByteArray) : Except IoError FileTree := do
  let place ← t.locate p
  -- A point behind a name asks for a directory of that name, which cannot be written.
  if p.endsWithPoint then
    match t.entry? place with
    | none => throw .notFound
    | some (.file _) => throw .notADirectory
    | some .directory => throw .isADirectory
  else if p.endsWithSlash || (t.entry? place).any (·.isDirectory) then throw .isADirectory
  else return t.put place (.file content)

/-- The tree with directories for all names that have none yet, followed from a place, and whether
that went well; `made` tells whether one has been made already. A file is in the way of a directory of
its name and of all behind it: once one was made it is a directory of the name that fails, and before
that it is what is behind. -/
def createDirectories (t : FileTree) (made : Bool) (place : List String) :
    List String → Except IoError Unit × FileTree
  | [] => (.ok (), t)
  | name :: names =>
    if name.utf8ByteSize > nameLimit then (.error .nameTooLong, t)
    else match t.entry? (FilePath.next place name) with
      | some .directory => t.createDirectories made (FilePath.next place name) names
      | some (.file _) =>
        (.error (if made || names.isEmpty then .alreadyExists else .notADirectory), t)
      | none =>
        (t.put (FilePath.next place name) .directory).createDirectories true
          (FilePath.next place name) names

/-- The tree with a directory at a path and at all places on the way, and whether that went well. A
path that ends with a point is never made a directory itself: it is one when the directories before
its last name are there, or it fails. -/
def createDirectory (t : FileTree) (p : FilePath) : Except IoError Unit × FileTree :=
  if p.text == "" then (.ok (), t)
  else match checkPath p with
    | .error e => (.error e, t)
    | .ok _ =>
      if p.endsWithPoint then
        match t.stat p with
        | .ok _ => (.ok (), t)
        | .error e =>
          if e = .notFound then
            match t.createDirectories false (t.origin p) p.names.dropLast with
            | (.ok _, t) => ((t.stat p).map fun _ => (), t)
            | failed => failed
          else (.error e, t)
      else t.createDirectories false (t.origin p) p.names

/-- Whether there is a directory at a path. -/
def isDirectory (t : FileTree) (p : FilePath) : Bool :=
  match t.stat p with
  | .ok .directory => true
  | _ => false

/-- The paths of everything in the tree, those of directories with a slash at the end, in order. -/
def listing (t : FileTree) : List String :=
  let one : List String × FileEntry → String
    | (names, .directory) => "/".intercalate names ++ "/"
    | (names, .file _) => "/".intercalate names
  (t.entries.map one).mergeSort (· ≤ ·)

end FileTree

end Switchboard
