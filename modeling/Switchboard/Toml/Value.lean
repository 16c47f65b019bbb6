import Switchboard.Decimal
import Switchboard.Unexpected

/-!
# TOML values

What a document holds once its syntax is forgotten. Integers are kept whole, however large, since
some settings take more than the language's 64 bits with a sign; of a number that no setting could
take only its kind is kept. `Value.fitsLanguage` says that a value keeps within the language's own
bounds: its integers do (`Value.integersFit`), and its floats are not beyond the largest double.
-/

namespace Switchboard.Toml

/-- A value of a document. -/
inductive Value
  | string (s : String)
  | integer (n : Int)
  | float (x : Float)
  /-- An integer beyond 128 bits. -/
  | hugeInteger
  /-- A float beyond the largest double. -/
  | hugeFloat
  | boolean (b : Bool)
  | datetime
  | array (items : List Value)
  | table (entries : List (String × Value))
  deriving Inhabited

/-- A table: keys and what they stand for. -/
abbrev Entries := List (String × Value)

namespace Value

/-- The name of a value's kind. -/
def kind : Value → String
  | .string _ => "string"
  | .integer _ => "integer"
  | .float _ | .hugeInteger | .hugeFloat => "float"
  | .boolean _ => "boolean"
  | .datetime => "datetime"
  | .array _ => "array"
  | .table _ => "table"

/-- The value as refusals name it; a date or time counts as a map. -/
def unexpected : Value → Unexpected
  | .string s => .string s
  | .integer n => .integer n
  | .float x => .float (Decimal.renderFloat .plain x)
  | .hugeInteger | .hugeFloat => .null
  | .boolean b => .boolean b
  | .datetime | .table _ => .map
  | .array _ => .sequence

/-- An integer, or that it is beyond 128 bits. -/
def ofInt (n : Int) : Value :=
  if -Int.pow 2 127 ≤ n && n < Int.pow 2 128 then .integer n else .hugeInteger

mutual

/-- Whether every value that holds no others passes a test. -/
def allLeaves (p : Value → Bool) : Value → Bool
  | .array items => allItems p items
  | .table entries => allEntries p entries
  | v => p v

/-- Whether every value inside some values passes a test. -/
def allItems (p : Value → Bool) : List Value → Bool
  | [] => true
  | v :: vs => allLeaves p v && allItems p vs

/-- Whether every value inside a table passes a test. -/
def allEntries (p : Value → Bool) : List (String × Value) → Bool
  | [] => true
  | (_, v) :: es => allLeaves p v && allEntries p es

end

/-- Whether all numbers of a value can be held. -/
def isReadable (v : Value) : Bool :=
  v.allLeaves fun
    | .hugeInteger | .hugeFloat => false
    | _ => true

/-- Whether all integers of a value fit in 64 bits with a sign. -/
def integersFit (v : Value) : Bool :=
  v.allLeaves fun
    | .integer n => -Int.pow 2 63 ≤ n && n < Int.pow 2 63
    | .hugeInteger => false
    | _ => true

/-- Whether all numbers of a value are within the bounds of the language. -/
def fitsLanguage (v : Value) : Bool := v.integersFit && v.isReadable

end Value

end Switchboard.Toml
