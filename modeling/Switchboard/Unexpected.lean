import Switchboard.Text.Quoted

/-!
# Values that are not what was wanted

Settings and names of machines are read out of values that say of what kind they are. When the kind
is wrong, the refusal names what was there and what was wanted, in words that are the same
everywhere.
-/

namespace Switchboard

/-- What was there. -/
inductive Unexpected
  /-- Nothing. -/
  | null
  | boolean (b : Bool)
  | integer (n : Int)
  /-- A number with a point, as it is written. -/
  | float (text : String)
  | string (s : String)
  | sequence
  | map

namespace Unexpected

/-- What was there, in words. -/
def describe : Unexpected → String
  | .null => "null"
  | .boolean b => s!"boolean `{b}`"
  | .integer n => s!"integer `{n}`"
  | .float text => s!"floating point `{text}`"
  | .string s => s!"string {Text.quote s}"
  | .sequence => "sequence"
  | .map => "map"

/-- The refusal of a value of the wrong kind. -/
def wrongType (u : Unexpected) (wanted : String) : String :=
  s!"invalid type: {u.describe}, expected {wanted}"

/-- The refusal of a value of the right kind that is out of bounds. -/
def wrongValue (u : Unexpected) (wanted : String) : String :=
  s!"invalid value: {u.describe}, expected {wanted}"

end Unexpected

/-- The refusal of a word that is none of a few. -/
def unknownVariant (word : String) (known : List String) : String :=
  let names := ", ".intercalate (known.map fun k => s!"`{k}`")
  s!"unknown variant `{word}`, expected one of {names}"

end Switchboard
