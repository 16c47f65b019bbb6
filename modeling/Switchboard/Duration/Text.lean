import Switchboard.Duration.Basic
import Switchboard.Text.Characters

/-!
# Lengths of time as text

A length of time is written as a list of amounts, each a number and a unit: `2h 30m`. It is read in
many more ways: units have several names, a number may have a fraction if that comes out even,
amounts come in any order and are added up, and blanks may stand almost anywhere, even among the
digits of a number.

Reading goes through the text one character at a time; `Duration.Reader` is what is known after
each.
-/

namespace Switchboard.Duration

/-- A unit of time. -/
inductive TimeUnit
  | nanosecond | microsecond | millisecond | second | minute | hour | day | week | month | year
  deriving DecidableEq

namespace TimeUnit

/-- The names by which a unit is read. -/
def names : TimeUnit → List String
  | .nanosecond => ["nanos", "nsec", "ns"]
  | .microsecond => ["usec", "us", "µs"]
  | .millisecond => ["millis", "msec", "ms"]
  | .second => ["seconds", "second", "secs", "sec", "s"]
  | .minute => ["minutes", "minute", "min", "mins", "m"]
  | .hour => ["hours", "hour", "hr", "hrs", "h"]
  | .day => ["days", "day", "d"]
  | .week => ["weeks", "week", "wk", "wks", "w"]
  | .month => ["months", "month", "M"]
  | .year => ["years", "year", "yr", "yrs", "y"]

/-- Every unit. -/
def all : List TimeUnit :=
  [.nanosecond, .microsecond, .millisecond, .second, .minute, .hour, .day, .week, .month, .year]

/-- The unit with a given name. -/
def ofName? (s : String) : Option TimeUnit := all.find? (·.names.contains s)

/-- The size of a unit that is counted in nanoseconds, that is, of one below a second. -/
def nanos? : TimeUnit → Option Nat
  | .nanosecond => some 1
  | .microsecond => some 1000
  | .millisecond => some 1000000
  | _ => none

/-- The size of a unit in seconds, if it is that large. A month is 30.44 days and a year 365.25. -/
def seconds : TimeUnit → Nat
  | .second => 1
  | .minute => 60
  | .hour => 3600
  | .day => 86400
  | .week => 604800
  | .month => 2630016
  | .year => 31557600
  | _ => 0

/-- A fraction of the unit, as seconds and nanoseconds, if it comes out even: units up to the
minute are divided to the nanosecond, longer ones to the second, and the nanosecond not at all. -/
def fraction? (u : TimeUnit) (numerator denominator : Nat) : Option (Nat × Nat) := do
  let whole ← match u with
    | .nanosecond => none
    | .microsecond | .millisecond => u.nanos?
    | .second | .minute => some (u.seconds * nanosPerSecond)
    | _ => some u.seconds
  let product ← fit64? (numerator * whole)
  if product % denominator ≠ 0 then none
  else
    let part := product / denominator
    match u with
    | .hour | .day | .week | .month | .year => return (part, 0)
    | _ => return (0, part)

end TimeUnit

/-- The fraction after a decimal point. -/
structure Fraction where
  /-- The digits, as a number. -/
  numerator : Nat := 0
  /-- One, with a zero for each digit. -/
  denominator : Nat := 1

/-- The length with an amount of a unit more, if everything fits. -/
def addAmount? (d : Duration) (whole : Nat) (fraction : Option Fraction) (u : TimeUnit) :
    Option Duration := do
  let d ← match u.nanos? with
    | some size => d.add? 0 (← fit64? (whole * size))
    | none => d.add? (← fit64? (whole * u.seconds)) 0
  match fraction with
  | none => return d
  | some f =>
    let (seconds, nanos) ← u.fraction? f.numerator f.denominator
    d.add? seconds nanos

/-- What is known after a part of the text. -/
inductive Reader
  /-- Between amounts, with their sum if there was one. -/
  | between (total : Option Duration)
  /-- In the digits before a point. -/
  | whole (total : Duration) (n : Nat)
  /-- In the digits after a point. -/
  | fraction (total : Duration) (n : Nat) (f : Fraction)
  /-- In the unit, of which some letters are known. -/
  | unit (total : Duration) (n : Nat) (f : Option Fraction) (letters : List Char)

namespace Reader

/-- The value of a digit. -/
def digit? (c : Char) : Option Nat := if c.isDigit then some (c.toNat - '0'.toNat) else none

/-- Whether a character can be part of a unit. -/
def isUnitLetter (c : Char) : Bool := c.isAlpha || c == 'µ'

/-- The sum after the unit of an amount is complete. -/
def complete? (total : Duration) (n : Nat) (f : Option Fraction) (letters : List Char) :
    Option Duration := do
  total.addAmount? n f (← TimeUnit.ofName? (String.ofList letters))

/-- What is known after one more character. -/
def step (r : Reader) (c : Char) : Option Reader :=
  match r with
  | .between total =>
    match digit? c with
    | some d => some (.whole (total.getD zero) d)
    | none => if Text.isBlank c then some r else none
  | .whole total n =>
    match digit? c with
    | some d => (fit64? (n * 10 + d)).map (.whole total)
    | none =>
      if Text.isBlank c then some r
      else if isUnitLetter c then some (.unit total n none [c])
      else if c = '.' then some (.fraction total n {})
      else none
  | .fraction total n f =>
    match digit? c with
    | some d => (fit64? (f.denominator * 10)).map fun den =>
        .fraction total n ⟨f.numerator * 10 + d, den⟩
    | none =>
      if Text.isBlank c then some r
      else if isUnitLetter c && f.denominator ≠ 1 then some (.unit total n (some f) [c])
      else none
  | .unit total n f letters =>
    match digit? c with
    | some d => (complete? total n f letters).map fun sum => .whole sum d
    | none =>
      if Text.isBlank c then (complete? total n f letters).map fun sum => .between (some sum)
      else if isUnitLetter c then some (.unit total n f (letters ++ [c]))
      else none

/-- The length that the whole text stands for. -/
def result? : Reader → Option Duration
  | .between total => total
  | .whole _ _ | .fraction _ _ _ => none
  | .unit total n f letters => complete? total n f letters

end Reader

/-- The length of time that a text stands for. A lone zero needs no unit. -/
def ofText? (s : String) : Option Duration :=
  if s == "0" then some zero
  else (s.toList.foldlM Reader.step (.between none)).bind Reader.result?

/-- An amount as it is written, if there is any: years, months and days in words, with an `s` for
more than one, and the rest in letters. -/
def amount (n : Nat) (unit : String) (inWords : Bool) : List String :=
  if n = 0 then []
  else [toString n ++ unit ++ if inWords && n > 1 then "s" else ""]

/-- The amounts as which a length is written. -/
def amounts (d : Duration) : List String :=
  let afterYears := d.seconds % TimeUnit.year.seconds
  let afterMonths := afterYears % TimeUnit.month.seconds
  let afterDays := afterMonths % TimeUnit.day.seconds
  amount (d.seconds / TimeUnit.year.seconds) "year" true
    ++ amount (afterYears / TimeUnit.month.seconds) "month" true
    ++ amount (afterMonths / TimeUnit.day.seconds) "day" true
    ++ amount (afterDays / 3600) "h" false
    ++ amount (afterDays % 3600 / 60) "m" false
    ++ amount (afterDays % 60) "s" false
    ++ amount (d.nanos / 1000000) "ms" false
    ++ amount (d.nanos / 1000 % 1000) "us" false
    ++ amount (d.nanos % 1000) "ns" false

/-- The text of a length of time. -/
def render (d : Duration) : String :=
  if d.seconds = 0 && d.nanos = 0 then "0s" else " ".intercalate d.amounts

end Switchboard.Duration
