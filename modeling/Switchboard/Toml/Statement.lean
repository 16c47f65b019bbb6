import Switchboard.Toml.Text

/-!
# Statements

A document is a list of statements, one on a line: a key with a value, or the head of a table. This
module reads them. What they mean together, and which of them do not go together, is the matter of
`Toml.Document`.

Values nest in arrays and inline tables, at most `nestingLimit` deep; reading recurses on what is
left of that.
-/

namespace Switchboard.Toml

/-- A value as it is written. -/
inductive Expr
  /-- A value that holds no others. -/
  | plain (v : Value)
  | array (items : List Expr)
  /-- An inline table: paths and what is assigned to them. -/
  | inlineTable (fields : List (List String × Expr))
  deriving Inhabited

/-- A statement of a document. -/
inductive Statement
  /-- A value is assigned to a path of the current table. -/
  | assign (path : List String) (value : Expr)
  /-- A table becomes the current one. -/
  | table (path : List String)
  /-- A new table at the end of an array becomes the current one. -/
  | arrayTable (path : List String)

/-- How deep arrays and inline tables nest. -/
def nestingLimit : Nat := 80

/-! ## Blanks and comments -/

/-- Whether a character is a blank within a line. -/
def isSpace (c : Char) : Bool := c == ' ' || c == '\t'

/-- What comes after the blanks. -/
def skipSpace (cs : List Char) : List Char := cs.dropWhile isSpace

/-- What comes after blanks, line ends and comments, given whether a comment is being skipped. -/
def skipLines : Bool → List Char → Option (List Char)
  | _, '\r' :: '\n' :: cs => skipLines false cs
  | _, '\n' :: cs => skipLines false cs
  | true, c :: cs => if isTextChar c then skipLines true cs else none
  | false, c :: cs =>
    if isSpace c then skipLines false cs
    else if c = '#' then skipLines true cs
    else some (c :: cs)
  | _, [] => some []

/-- What comes after the rest of a line on which nothing more is said. -/
def endLine (cs : List Char) : Option (List Char) :=
  let cs := skipSpace cs
  let cs := if cs.head? == some '#' then cs.dropWhile isTextChar else cs
  match cs with
  | [] => some []
  | '\n' :: cs => some cs
  | '\r' :: '\n' :: cs => some cs
  | _ => none

/-! ## Keys -/

/-- Whether a character can be part of a key without quotes. -/
def isBareKeyChar (c : Char) : Bool := c.isAlphanum || c == '_' || c == '-'

/-- One part of a path. -/
def key? (cs : List Char) : Option (String × List Char) :=
  match cs with
  | '"' :: _ | '\'' :: _ => shortText? cs
  | _ =>
    let name := cs.takeWhile isBareKeyChar
    if name.isEmpty then none else some (String.ofList name, cs.dropWhile isBareKeyChar)

/-- A path of keys with points between them, of which there are at most `fuel`. -/
def path? : Nat → List Char → Option (List String × List Char)
  | 0, _ => none
  | fuel + 1, cs => do
    let (k, cs) ← key? cs
    match skipSpace cs with
    | '.' :: cs =>
      let (ks, cs) ← path? fuel (skipSpace cs)
      return (k :: ks, cs)
    | cs => return ([k], cs)

/-! ## Values -/

/-- A value that holds no others. -/
def plain? (cs : List Char) : Option (Expr × List Char) :=
  match cs with
  | '"' :: _ | '\'' :: _ => (quotedText? cs).map fun (s, cs) => (.plain (.string s), cs)
  | _ =>
    let (run, rest) := cutScalar cs
    (scalar? run).map fun v => (.plain v, rest)

/-- A path and the value that is assigned to it, given how values are read. -/
def field? (value : List Char → Option (Expr × List Char)) (cs : List Char) :
    Option ((List String × Expr) × List Char) := do
  let (path, cs) ← path? (cs.length + 1) cs
  let '=' :: cs := cs | none
  let (v, cs) ← value (skipSpace cs)
  return ((path, v), cs)

/-- What stands between brackets, with commas between the items and perhaps after the last, given
the closing bracket and how an item is read. There are at most `fuel` items. -/
def items? {α : Type} (close : Char) (item : List Char → Option (α × List Char)) :
    Nat → List Char → Option (List α × List Char)
  | 0, _ => none
  | fuel + 1, cs => do
    let cs ← skipLines false cs
    if cs.head? == some close then return ([], cs.drop 1)
    let (x, cs) ← item cs
    let cs ← skipLines false cs
    match cs with
    | c :: cs =>
      if c = ',' then
        let (xs, cs) ← items? close item fuel cs
        return (x :: xs, cs)
      else if c = close then return ([x], cs)
      else none
    | [] => none

/-- A value that nests at most as deep as given. -/
def value? : Nat → List Char → Option (Expr × List Char)
  | 0, cs => plain? cs
  | depth + 1, cs =>
    match cs with
    | '[' :: cs => (items? ']' (value? depth) (cs.length + 1) cs).map fun (xs, cs) => (.array xs, cs)
    | '{' :: cs =>
      (items? '}' (field? (value? depth)) (cs.length + 1) cs).map fun (fs, cs) =>
        (.inlineTable fs, cs)
    | cs => plain? cs

/-! ## Statements -/

/-- The head of a table at the start of a line, after its opening brackets. -/
def header? (brackets : List Char) (cs : List Char) : Option (List String × List Char) := do
  let (path, cs) ← path? (cs.length + 1) (skipSpace cs)
  if brackets.isPrefixOf cs then return (path, ← endLine (cs.drop brackets.length)) else none

/-- The statement at the start of a line that says something. -/
def statement? (cs : List Char) : Option (Statement × List Char) :=
  match cs with
  | '[' :: '[' :: cs => (header? [']', ']'] cs).map fun (path, cs) => (.arrayTable path, cs)
  | '[' :: cs => (header? [']'] cs).map fun (path, cs) => (.table path, cs)
  | cs => do
    let ((path, v), cs) ← field? (value? nestingLimit) cs
    return (.assign path v, ← endLine cs)

/-- The statements of a text with at most `fuel` of them. -/
def statements? : Nat → List Char → Option (List Statement)
  | 0, _ => none
  | fuel + 1, cs => do
    match ← skipLines false cs with
    | [] => return []
    | cs =>
      let (s, cs) ← statement? cs
      return s :: (← statements? fuel cs)

/-- The statements of a text, which may begin with a byte order mark. -/
def readStatements (text : String) : Option (List Statement) :=
  let cs := match text.toList with
    | '\ufeff' :: cs => cs
    | cs => cs
  statements? (cs.length + 1) cs

end Switchboard.Toml
