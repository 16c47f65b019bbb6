import Switchboard.Text.Characters

/-!
# Filters for log output

A filter is a list of directives with commas between them: a level, a target with or without a
level, and perhaps a span with fields in brackets. Here it is only decided whether a filter is well
formed. A directive is gone through one character at a time, and `LogFilter.Place` is where in it
reading stands.
-/

namespace Switchboard.LogFilter

/-- Why a filter is not well formed. -/
inductive FilterError
  /-- A level is none of the known ones. -/
  | level
  /-- A directive has another fault. -/
  | directive
  deriving DecidableEq

/-- The error as messages write it. -/
def FilterError.message : FilterError → String
  | .level =>
    "error parsing level filter: expected one of \"off\", \"error\", \"warn\", \"info\", \"debug\", \"trace\", or a number 0-5"
  | .directive => "invalid filter directive"

/-- Whether a text is a level: a word, in small or capital letters, or a number up to five. -/
def isLevel (s : List Char) : Bool :=
  let word := String.ofList (s.map Char.toLower)
  let digits := match s with
    | '+' :: ds => ds
    | ds => ds
  ["off", "error", "warn", "info", "debug", "trace"].contains word
    || (!digits.isEmpty && digits.all Char.isDigit
      && (digits.foldl (fun n d => n * 10 + (d.toNat - '0'.toNat)) 0) ≤ 5)

/-- Where in a directive reading stands. -/
inductive Place
  /-- At the start. -/
  | start
  /-- In a level or a target. -/
  | name
  /-- Inside brackets, in the name of a span. -/
  | span
  /-- Inside braces, in a field, of which something was read or not. -/
  | field (isEmpty : Bool)
  /-- Between a closing brace and the closing bracket. -/
  | fields
  /-- After the closing bracket. -/
  | closed
  /-- In a level after an equals sign, of which some characters were read. -/
  | level (read : List Char)
  deriving DecidableEq

/-- Where reading stands after one more character. -/
def Place.step : Place → Char → Option Place
  | .start, c =>
    if c = '[' then some .span
    else if c = '-' || c = ':' || c = '_' || Text.isAlphanumeric c then some .name
    else none
  | .name, c => some (if c = '=' then .level [] else if c = '[' then .span else .name)
  | .span, c => some (if c = ']' then .closed else if c = '\x7b' then .field true else .span)
  | .field isEmpty, c =>
    if c = '\x7d' then (if isEmpty then none else some .fields) else some (.field false)
  | .fields, c => if c = ']' then some .closed else none
  | .closed, c => if c = '=' then some (.level []) else none
  | .level read, c => some (.level (read ++ [c]))

/-- What is wrong with a directive. Blanks at its ends are passed over, but a level must not have
any beside the directive it ends. -/
def directiveError? (s : String) : Option FilterError :=
  let trimmed := Text.trimBlanks s
  match trimmed.toList.foldlM Place.step .start with
  | some .name | some .closed => none
  | some (.level read) =>
    -- The places are those of the trimmed text, so a blank in front shifts the level.
    if trimmed == s && (read.isEmpty || isLevel read) then none else some .level
  | _ => some .directive

/-- What is wrong with a filter: the first fault counts, and empty directives have none. -/
def error? (filter : String) : Option FilterError :=
  ((filter.splitOn ",").filter (· != "")).findSome? directiveError?

end Switchboard.LogFilter
