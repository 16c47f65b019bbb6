import Switchboard.Machine
import Switchboard.Unexpected

/-!
# The names of machines

A machine has a name in configuration files and another one in log lines. Where a machine is stored
as one value among others, the value is either the machine's name, or an object with the name as its
only key and nothing behind it.
-/

namespace Switchboard

/-- A value as machines are read from: all that matters of it. -/
inductive StoredValue
  /-- A text. -/
  | text (s : String)
  /-- An object, with its keys and what is behind them. -/
  | object (fields : List (String × Unexpected))
  /-- Anything else. -/
  | other (what : Unexpected)

namespace Machine

/-- The name a machine has in configuration files. -/
def name : Machine → String
  | .c64 => "c64"
  | .c64sc => "c64sc"
  | .c64dtv => "c64dtv"
  | .scpu64 => "scpu64"
  | .c128 => "c128"
  | .vic20 => "vic20"
  | .pet => "pet"
  | .cbm5x0 => "cbm5x0"
  | .cbm6x0 => "cbm6x0"
  | .plus4 => "plus4"
  | .vsid => "vsid"

/-- The name a machine has in log lines. -/
def label : Machine → String
  | .c64 => "C64"
  | .c64sc => "C64sc"
  | .c64dtv => "C64dtv"
  | .scpu64 => "Scpu64"
  | .c128 => "C128"
  | .vic20 => "Vic20"
  | .pet => "Pet"
  | .cbm5x0 => "Cbm5x0"
  | .cbm6x0 => "Cbm6x0"
  | .plus4 => "Plus4"
  | .vsid => "Vsid"

/-- The machine with a given configuration name, which has to match letter for letter. -/
def ofName? (s : String) : Option Machine := all.find? (·.name == s)

/-- A machine is found by its name. -/
theorem ofName?_name (m : Machine) : ofName? m.name = some m := by cases m <;> decide

/-- The machine with a name, or the refusal that lists all names. -/
def read (name : String) : Except String Machine :=
  match ofName? name with
  | some m => .ok m
  | none => .error (unknownVariant name (all.map (·.name)))

/-- The machine that a value stands for. -/
def ofStored : StoredValue → Except String Machine
  | .text name => read name
  | .object [(name, behind)] => do
    let m ← read name
    match behind with
    | .null => return m
    | _ => throw (behind.wrongType "unit")
  | .object _ => throw (Unexpected.map.wrongValue "map with a single key")
  | .other what => throw (what.wrongType "string or map")

end Machine

end Switchboard
