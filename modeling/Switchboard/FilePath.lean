/-!
# Paths

A path is a text with slashes between its segments. Empty segments and single points name nothing;
the other segments are the names of the path. A name leads from a place to what is below the place
under that name, but two points lead to the place above.
-/

namespace Switchboard

/-- A path, as the segments between its slashes. -/
structure FilePath where
  /-- The segments, of which there is at least one. -/
  segments : List String
  deriving DecidableEq

namespace FilePath

/-- The pieces of a list between the places where a separator stands. -/
def splitOn (sep : Char) : List Char → List (List Char)
  | [] => [[]]
  | c :: cs =>
    if c = sep then [] :: splitOn sep cs
    else match splitOn sep cs with
      | piece :: pieces => (c :: piece) :: pieces
      | [] => [[c]]

/-- The path that a text is. -/
def ofText (s : String) : FilePath := ⟨(splitOn '/' s.toList).map String.ofList⟩

/-- The text of a path. -/
def text (p : FilePath) : String := "/".intercalate p.segments

/-- Whether a segment names something. -/
def isName (s : String) : Bool := s != "" && s != "."

/-- The names of a path. -/
def names (p : FilePath) : List String := p.segments.filter isName

/-- Whether the path starts at the root of everything. -/
def isAbsolute (p : FilePath) : Bool := p.segments.head? == some "" && 1 < p.segments.length

/-- The place to which a name leads from another. Two points lead up, and from the top nowhere else. -/
def next (place : List String) (name : String) : List String :=
  if name = ".." then place.dropLast else place ++ [name]

/-- The place to which names lead from another, one after the other. -/
def follow (place names : List String) : List String := names.foldl next place

/-- Whether a segment of the path leads upwards. -/
def leadsUp (p : FilePath) : Bool := p.segments.contains ".."

/-- Whether the path ends with a slash. -/
def endsWithSlash (p : FilePath) : Bool := p.segments.getLast? == some ""

/-- Whether the last segment that is not empty is a point. -/
def endsWithPoint (p : FilePath) : Bool :=
  (p.segments.filter (· != "")).getLast? == some "."

/-- Segments without those at the end that name nothing. -/
def trimmed (segments : List String) : List String :=
  (segments.reverse.dropWhile fun s => !isName s).reverse

/-- The path of the directory that the last name is in, if there is a name. Where no name is before
the last one, that is the root, or the directory from which the path goes. -/
def parent? (p : FilePath) : Option FilePath :=
  match (trimmed p.segments).dropLast, trimmed p.segments with
  | _, [] => none
  | [], _ => some ⟨[""]⟩
  | first :: above, _ =>
    if (trimmed (first :: above)).isEmpty then some ⟨if first == "" then ["", ""] else [first]⟩
    else some ⟨trimmed (first :: above)⟩

/-- The path of the directory that a file is in. -/
def directory (p : FilePath) : FilePath := p.parent?.getD ⟨[""]⟩

/-- A path behind another. -/
def join (p : FilePath) (s : String) : FilePath :=
  if p.text == "" then ofText s
  else if p.endsWithSlash then ofText (p.text ++ s)
  else ofText (p.text ++ "/" ++ s)

end FilePath

end Switchboard
