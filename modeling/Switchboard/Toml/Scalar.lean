import Switchboard.Decimal
import Switchboard.Toml.Value

/-!
# Scalars without quotes

Booleans, integers, floats, dates and times are runs of letters, digits and a few signs. What a run
stands for is decided by its shape alone. Digits may be grouped by underscores between them, and a
number that is not written in base sixteen, eight or two does not begin with a needless zero.
-/

namespace Switchboard.Toml

/-- Whether a character can be part of a scalar without quotes. -/
def isScalarChar (c : Char) : Bool := c.isAlphanum || "+-_.:".toList.contains c

/-- The digits of a run in which underscores stand between digits only. -/
def ungroup? (isDigit : Char → Bool) : List Char → Option (List Char)
  | [] => none
  | [c] => if isDigit c then some [c] else none
  | c :: '_' :: cs => if isDigit c then (ungroup? isDigit cs).map (c :: ·) else none
  | c :: cs => if isDigit c then (ungroup? isDigit cs).map (c :: ·) else none

/-- The value of a digit in a base up to sixteen. -/
def digitValue (c : Char) : Nat :=
  if c.isDigit then c.toNat - '0'.toNat
  else if 'a' ≤ c then c.toNat - 'a'.toNat + 10
  else c.toNat - 'A'.toNat + 10

/-- The number with some digits in a base. -/
def ofDigits (base : Nat) (ds : List Char) : Nat := ds.foldl (fun n c => n * base + digitValue c) 0

/-- Whether a character is a digit in base sixteen. -/
def isHexDigit (c : Char) : Bool := c.isDigit || ('a' ≤ c && c ≤ 'f') || ('A' ≤ c && c ≤ 'F')

/-- The digits of a run in base ten without a needless zero in front. -/
def decimalDigits? (cs : List Char) : Option (List Char) := do
  let ds ← ungroup? Char.isDigit cs
  if ds.length > 1 && ds.head? == some '0' then none else some ds

/-- A sign, and the rest of a run; no sign is a plus. -/
def splitSign : List Char → Bool × List Char
  | '-' :: cs => (true, cs)
  | '+' :: cs => (false, cs)
  | cs => (false, cs)

/-- The integer that a run stands for. -/
def integer? : List Char → Option Int
  | '0' :: 'x' :: cs => (ungroup? isHexDigit cs).map fun ds => ofDigits 16 ds
  | '0' :: 'o' :: cs =>
    (ungroup? (fun c => '0' ≤ c && c ≤ '7') cs).map fun ds => ofDigits 8 ds
  | '0' :: 'b' :: cs => (ungroup? (fun c => c == '0' || c == '1') cs).map fun ds => ofDigits 2 ds
  | cs => do
    let (negative, cs) := splitSign cs
    let n := ofDigits 10 (← decimalDigits? cs)
    return if negative then -n else n

/-- The double nearest to a decimal, or that it is beyond the largest. -/
def floatValue (negative : Bool) (digits : Nat) (exponent : Int) : Value :=
  match Decimal.nearest? digits exponent with
  | some x => .float (if negative then -x else x)
  | none => .hugeFloat

/-- The exponent of a float, if the run goes on with one. -/
def exponent? : List Char → Option Int
  | [] => some 0
  | c :: cs =>
    if c = 'e' || c = 'E' then do
      let (negative, cs) := splitSign cs
      let n := ofDigits 10 (← ungroup? Char.isDigit cs)
      return if negative then -n else n
    else none

/-- The float that a run stands for, which has a point or an exponent or is no number. -/
def float? (cs : List Char) : Option Value := do
  let (negative, cs) := splitSign cs
  if cs = "inf".toList then
    return .float (if negative then -(1.0 / 0.0) else 1.0 / 0.0)
  else if cs = "nan".toList then return .float (0.0 / 0.0)
  else
    let isPart (c : Char) := c.isDigit || c == '_'
    let whole ← decimalDigits? (cs.takeWhile isPart)
    match cs.dropWhile isPart with
    | [] => none
    | '.' :: rest =>
      let part ← ungroup? Char.isDigit (rest.takeWhile isPart)
      let e ← exponent? (rest.dropWhile isPart)
      return floatValue negative (ofDigits 10 (whole ++ part)) (e - part.length)
    | rest => return floatValue negative (ofDigits 10 whole) (← exponent? rest)

/-- The number of a two-digit group at the start of a run, and what comes after it. -/
def twoDigits? : List Char → Option (Nat × List Char)
  | a :: b :: cs => if a.isDigit && b.isDigit then some (ofDigits 10 [a, b], cs) else none
  | _ => none

/-- The number of days of a month. -/
def daysOfMonth (year month : Nat) : Nat :=
  if month = 2 then
    if year % 4 = 0 && (year % 100 ≠ 0 || year % 400 = 0) then 29 else 28
  else if [4, 6, 9, 11].contains month then 30
  else 31

/-- What comes after a date at the start of a run. -/
def skipDate? (cs : List Char) : Option (List Char) := do
  let (century, cs) ← twoDigits? cs
  let (ofCentury, cs) ← twoDigits? cs
  let '-' :: cs := cs | none
  let (month, cs) ← twoDigits? cs
  let '-' :: cs := cs | none
  let (day, cs) ← twoDigits? cs
  let year := century * 100 + ofCentury
  if 1 ≤ month && month ≤ 12 && 1 ≤ day && day ≤ daysOfMonth year month then some cs else none

/-- What comes after a time of day at the start of a run. Seconds and their fraction may be left
out; a leap second is a second. -/
def skipTime? (cs : List Char) : Option (List Char) := do
  let (hour, cs) ← twoDigits? cs
  let ':' :: cs := cs | none
  let (minute, cs) ← twoDigits? cs
  if hour > 23 || minute > 59 then none
  else match cs with
    | ':' :: cs =>
      let (second, cs) ← twoDigits? cs
      if second > 60 then none
      else match cs with
        | '.' :: cs =>
          if (cs.head?.any Char.isDigit) then some (cs.dropWhile Char.isDigit) else none
        | cs => some cs
    | cs => some cs

/-- Whether a run is an offset from universal time, or nothing. -/
def isOffset : List Char → Bool
  | [] => true
  | [c] => c == 'Z' || c == 'z'
  | sign :: cs => (sign == '+' || sign == '-') &&
    match twoDigits? cs with
    | some (hours, ':' :: cs) =>
      match twoDigits? cs with
      | some (minutes, []) => hours ≤ 23 && minutes ≤ 59
      | _ => false
    | _ => false

/-- Whether a run is a date, a time of day, or both with or without an offset. -/
def isDatetime (cs : List Char) : Bool :=
  match skipDate? cs with
  | some [] => true
  | some (sep :: cs) =>
    (sep == 'T' || sep == 't' || sep == ' ') && (skipTime? cs).any isOffset
  | none => skipTime? cs == some []

/-- The value that a run stands for. -/
def scalar? (cs : List Char) : Option Value :=
  if cs = "true".toList then some (.boolean true)
  else if cs = "false".toList then some (.boolean false)
  else if isDatetime cs then some .datetime
  else match integer? cs with
    | some n => some (.ofInt n)
    | none => float? cs

/-- Cuts a scalar without quotes off a text. One blank may stand between a date and a time. -/
def cutScalar (cs : List Char) : List Char × List Char :=
  let run := cs.takeWhile isScalarChar
  let rest := cs.dropWhile isScalarChar
  match rest with
  | ' ' :: c :: more =>
    if skipDate? run == some [] && c.isDigit then
      (run ++ ' ' :: (c :: more).takeWhile isScalarChar, (c :: more).dropWhile isScalarChar)
    else (run, rest)
  | _ => (run, rest)

end Switchboard.Toml
