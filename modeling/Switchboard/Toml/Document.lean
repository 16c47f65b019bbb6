import Switchboard.Toml.Statement

/-!
# Documents

The statements of a document build one table. A key is given a value once. A table gets its head
once, though tables inside it may have theirs before; one that came to be by a path with points is
closed to heads, and one that has a head is closed to such paths. Inline tables and arrays that were
assigned are closed to everything.
-/

namespace Switchboard.Toml

/-- How a table came to be. -/
inductive Origin
  /-- By a head of its own. -/
  | headed
  /-- On the way to the head of another. -/
  | implied
  /-- On the way to a key, by a path with points. -/
  | dotted
  deriving DecidableEq

/-- What a key stands for while a document is being built. -/
inductive Node
  /-- A value, which is complete. -/
  | closed (v : Value)
  | table (origin : Origin) (entries : List (String × Node))
  /-- The tables of an array, the current one last. -/
  | tables (done : List Value) (current : List (String × Node))

/-- A table while a document is being built. -/
abbrev Branch := List (String × Node)

mutual

/-- The value of a node. -/
def Node.value : Node → Value
  | .closed v => v
  | .table _ entries => .table (Branch.values entries)
  | .tables done current => .array (done ++ [.table (Branch.values current)])

/-- The entries of a table with their values. -/
def Branch.values : List (String × Node) → Entries
  | [] => []
  | (k, n) :: es => (k, n.value) :: Branch.values es

end

namespace Branch

/-- The table with the node of one key replaced, or added at the end. -/
def put (k : String) (n : Node) : Branch → Branch
  | [] => [(k, n)]
  | (k', n') :: es => if k' = k then (k, n) :: es else (k', n') :: put k n es

/-- Assigns a value to a path, given whether the table at hand takes keys. -/
def assign (isOpen : Bool) (v : Value) : List String → Branch → Option Branch
  | [], _ => none
  | [k], b =>
    match b.lookup k with
    | none => if isOpen then some (b ++ [(k, .closed v)]) else none
    | some _ => none
  | k :: ks, b =>
    match b.lookup k with
    | none => (assign true v ks []).map fun inner => b ++ [(k, .table .dotted inner)]
    | some (.table origin inner) =>
      -- An implied table may be gone through, but only a dotted one takes the key itself.
      if origin = .headed then none
      else (assign (origin = .dotted) v ks inner).map fun inner => b.put k (.table origin inner)
    | some (.tables done current) =>
      -- The tables of an array have heads, so the current one takes no key by a path.
      (assign false v ks current).map fun current => b.put k (.tables done current)
    | some (.closed _) => none

/-- Changes the table at a path, going through the current table of each array on the way. Tables
that are not there are implied. -/
def descend (change : Branch → Option Branch) : List String → Branch → Option Branch
  | [], b => change b
  | k :: ks, b =>
    match b.lookup k with
    | none => (descend change ks []).map fun inner => b ++ [(k, .table .implied inner)]
    | some (.table origin inner) =>
      (descend change ks inner).map fun inner => b.put k (.table origin inner)
    | some (.tables done current) =>
      (descend change ks current).map fun current => b.put k (.tables done current)
    | some (.closed _) => none

/-- Gives the table at a key its head. -/
def openTable (k : String) (b : Branch) : Option Branch :=
  match b.lookup k with
  | none => some (b ++ [(k, .table .headed [])])
  | some (.table .implied inner) => some (b.put k (.table .headed inner))
  | some _ => none

/-- Adds a table to the array at a key. -/
def pushTable (k : String) (b : Branch) : Option Branch :=
  match b.lookup k with
  | none => some (b ++ [(k, .tables [] [])])
  | some (.tables done current) =>
    some (b.put k (.tables (done ++ [.table (values current)]) []))
  | some _ => none

end Branch

mutual

/-- The value that an expression stands for, if its inline tables are in order. -/
def Expr.value? : Expr → Option Value
  | .plain v => some v
  | .array items => (Expr.values? items).map .array
  | .inlineTable fields => (Expr.branch? [] fields).map fun b => .table (Branch.values b)

/-- The values that expressions stand for. -/
def Expr.values? : List Expr → Option (List Value)
  | [] => some []
  | x :: xs => do return (← x.value?) :: (← Expr.values? xs)

/-- The table that the fields of an inline table build, added to what there is. -/
def Expr.branch? (b : Branch) : List (List String × Expr) → Option Branch
  | [] => some b
  | (path, x) :: fields => do Expr.branch? (← b.assign true (← x.value?) path) fields

end

/-- A document while it is being built. -/
structure Draft where
  /-- The table of everything. -/
  root : Branch := []
  /-- The path of the current table. -/
  current : List String := []

namespace Draft

/-- The draft with one more statement. -/
def add (d : Draft) : Statement → Option Draft
  | .assign path x => do
    let v ← x.value?
    return { d with root := ← d.root.descend (·.assign true v path) d.current }
  | .table path => do
    let k ← path.getLast?
    return ⟨← d.root.descend (·.openTable k) path.dropLast, path⟩
  | .arrayTable path => do
    let k ← path.getLast?
    return ⟨← d.root.descend (·.pushTable k) path.dropLast, path⟩

end Draft

/-- The table that some statements build. -/
def build (statements : List Statement) : Option Entries := do
  let d ← statements.foldlM Draft.add {}
  return Branch.values d.root

/-- The table that a text stands for. -/
def parse (text : String) : Option Entries := (readStatements text).bind build

end Switchboard.Toml
