import Switchboard.Toml.Scalar

/-!
# Quoted texts

A text is quoted in one of four ways: basic or literal, on one line or on several. Basic texts have
escapes and literal ones have none. Reading first finds the closing quotes and then looks at what is
between. Writing takes the plainest way that the text allows, `Quoting.choose`.
-/

namespace Switchboard.Toml

/-- Whether a character may stand for itself between quotes, or in a comment. Line ends may not. -/
def isTextChar (c : Char) : Bool := c == '\t' || (' ' ≤ c && c ≠ '\x7f')

/-! ## Reading -/

/-- What is before a basic closing quote, and what comes after it. -/
def cutBasic : List Char → Option (List Char × List Char)
  | '"' :: cs => some ([], cs)
  | '\\' :: c :: cs => (cutBasic cs).map fun (s, rest) => ('\\' :: c :: s, rest)
  | c :: cs => (cutBasic cs).map fun (s, rest) => (c :: s, rest)
  | [] => none

/-- What is before three basic closing quotes, and what comes after them. Up to two more quotes in
front of those belong to the text. -/
def cutLongBasic : List Char → Option (List Char × List Char)
  | '"' :: '"' :: '"' :: '"' :: '"' :: cs => some (['"', '"'], cs)
  | '"' :: '"' :: '"' :: '"' :: cs => some (['"'], cs)
  | '"' :: '"' :: '"' :: cs => some ([], cs)
  | '\\' :: c :: cs => (cutLongBasic cs).map fun (s, rest) => ('\\' :: c :: s, rest)
  | c :: cs => (cutLongBasic cs).map fun (s, rest) => (c :: s, rest)
  | [] => none

/-- What is before three literal closing quotes, and what comes after them. Up to two more quotes
in front of those belong to the text. -/
def cutLongLiteral : List Char → Option (List Char × List Char)
  | '\'' :: '\'' :: '\'' :: '\'' :: '\'' :: cs => some (['\'', '\''], cs)
  | '\'' :: '\'' :: '\'' :: '\'' :: cs => some (['\''], cs)
  | '\'' :: '\'' :: '\'' :: cs => some ([], cs)
  | c :: cs => (cutLongLiteral cs).map fun (s, rest) => (c :: s, rest)
  | [] => none

/-- What is before a literal closing quote, and what comes after it. -/
def cutLiteral (cs : List Char) : Option (List Char × List Char) :=
  match cs.dropWhile (· ≠ '\'') with
  | _ :: rest => some (cs.takeWhile (· ≠ '\''), rest)
  | [] => none

/-- Whether a text holds only characters that may stand for themselves, and proper line ends. -/
def isLongText : List Char → Bool
  | '\r' :: '\n' :: cs => isLongText cs
  | c :: cs => (c == '\n' || isTextChar c) && isLongText cs
  | [] => true

/-- The character with a code, if there is one. -/
def charOfHex? (ds : List Char) : Option Char :=
  if ds.all isHexDigit then
    let n := ofDigits 16 ds
    if n.isValidChar then some (Char.ofNat n) else none
  else none

/-- The character that one letter after a backslash stands for. -/
def shortEscape? : Char → Option Char
  | 'b' => some '\x08'
  | 't' => some '\t'
  | 'n' => some '\n'
  | 'f' => some '\x0c'
  | 'r' => some '\r'
  | 'e' => some '\x1b'
  | '"' => some '"'
  | '\\' => some '\\'
  | _ => none

/-- Where reading stands between the characters of a basic text. -/
inductive Gap
  /-- No line end is being skipped. -/
  | closed
  /-- After a backslash, before a line end. -/
  | opening
  /-- After a backslash and a line end: blanks and line ends are skipped. -/
  | skipping
  deriving DecidableEq

/-- The text that is written with escapes. A backslash at the end of a line skips everything up to
the next character that is neither blank nor line end. -/
def unescape : Gap → List Char → Option (List Char)
  | g, '\\' :: 'u' :: a :: b :: c :: d :: cs => do
    if g = .opening then none
    else return (← charOfHex? [a, b, c, d]) :: (← unescape .closed cs)
  | g, '\\' :: 'U' :: a :: b :: c :: d :: e :: f :: h :: i :: cs => do
    if g = .opening then none
    else return (← charOfHex? [a, b, c, d, e, f, h, i]) :: (← unescape .closed cs)
  | g, '\\' :: 'x' :: a :: b :: cs => do
    if g = .opening then none
    else return (← charOfHex? [a, b]) :: (← unescape .closed cs)
  | g, '\\' :: c :: cs =>
    if g = .opening then none
    -- Blanks may stand between a backslash and the line end that it swallows.
    else if c = ' ' || c = '\t' then unescape .opening cs
    else if c = '\n' then unescape .skipping cs
    else if c = '\r' then
      match cs with
      | '\n' :: cs => unescape .skipping cs
      | _ => none
    else do return (← shortEscape? c) :: (← unescape .closed cs)
  | _, ['\\'] => none
  | g, '\r' :: '\n' :: cs =>
    match g with
    | .closed => (unescape .closed cs).map ('\r' :: '\n' :: ·)
    | .opening | .skipping => unescape .skipping cs
  | g, c :: cs =>
    match g with
    | .opening =>
      if c = ' ' || c = '\t' then unescape .opening cs
      else if c = '\n' then unescape .skipping cs
      else none
    | .skipping =>
      if c = ' ' || c = '\t' || c = '\n' then unescape .skipping cs
      else (unescape .closed cs).map (c :: ·)
    | .closed => (unescape .closed cs).map (c :: ·)
  | .opening, [] => none
  | _, [] => some []

/-- A text without the line end at its start. -/
def dropLineEnd : List Char → List Char
  | '\r' :: '\n' :: cs => cs
  | '\n' :: cs => cs
  | cs => cs

/-- A quoted text on one line, at the start of some characters, and what comes after it. -/
def shortText? : List Char → Option (String × List Char)
  | '"' :: cs => do
    let (s, rest) ← cutBasic cs
    if s.all isTextChar then return (String.ofList (← unescape .closed s), rest) else none
  | '\'' :: cs => do
    let (s, rest) ← cutLiteral cs
    if s.all isTextChar then return (String.ofList s, rest) else none
  | _ => none

/-- A quoted text at the start of some characters, and what comes after it. -/
def quotedText? : List Char → Option (String × List Char)
  | '"' :: '"' :: '"' :: cs => do
    let (s, rest) ← cutLongBasic cs
    let s := dropLineEnd s
    if isLongText s then return (String.ofList (← unescape .closed s), rest) else none
  | '\'' :: '\'' :: '\'' :: cs => do
    let (s, rest) ← cutLongLiteral cs
    let s := dropLineEnd s
    if isLongText s then return (String.ofList s, rest) else none
  | cs => shortText? cs

/-! ## Writing -/

/-- The ways in which a text is quoted. -/
inductive Quoting
  | basic | literal | longBasic | longLiteral
  deriving DecidableEq

/-- Whether a character has to be escaped whatever the quotes are: a control character that is
neither tab nor line feed. -/
def needsEscape (c : Char) : Bool := (c < ' ' && c ≠ '\t' && c ≠ '\n') || c == '\x7f'

/-- Whether a character occurs three times in a row. -/
def hasTriple (q : Char) : List Char → Bool
  | a :: b :: c :: cs => (a == q && b == q && c == q) || hasTriple q (b :: c :: cs)
  | _ => false

/-- The first way of quoting that a text allows; what allows no other is written with escapes. -/
def Quoting.choose (s : List Char) : Quoting :=
  let escapeFree := !s.any needsEscape
  let oneLine := !s.contains '\n'
  if escapeFree && !s.contains '\\' && !s.contains '"' && oneLine then .basic
  else if escapeFree && !s.contains '\'' && oneLine then .literal
  else if escapeFree && !s.contains '\\' && !hasTriple '"' s then .longBasic
  else if escapeFree && !hasTriple '\'' s then .longLiteral
  else if oneLine then .basic
  else .longBasic

/-- Four digits in base sixteen, in upper case. -/
def upperHex4 (n : Nat) : List Char :=
  [n / 4096 % 16, n / 256 % 16, n / 16 % 16, n % 16].map fun d =>
    Char.ofNat (if d < 10 then '0'.toNat + d else 'A'.toNat + (d - 10))

/-- A character of a basic text, quotes and line feeds apart, with its escape if it needs one. -/
def escapeChar (c : Char) : List Char :=
  if c = '\x08' then ['\\', 'b']
  else if c = '\t' then ['\\', 't']
  else if c = '\x0c' then ['\\', 'f']
  else if c = '\r' then ['\\', 'r']
  else if c = '\\' then ['\\', '\\']
  else if needsEscape c then '\\' :: 'u' :: upperHex4 c.toNat
  else [c]

/-- A basic text on one line. -/
def escapeShort (s : List Char) : List Char :=
  s.flatMap fun c =>
    if c = '"' then ['\\', '"'] else if c = '\n' then ['\\', 'n'] else escapeChar c

/-- A basic text on several lines, after some quotes in a row: only a third quote is escaped, and
counting starts again after it. -/
def escapeLong : Nat → List Char → List Char
  | _, [] => []
  | quotes, c :: cs =>
    if c = '"' then
      if quotes = 2 then '\\' :: '"' :: escapeLong 0 cs else '"' :: escapeLong (quotes + 1) cs
    else if c = '\n' then '\n' :: escapeLong 0 cs
    else escapeChar c ++ escapeLong 0 cs

/-- The line end after the opening quotes of a text on several lines; one on a single line has
none. -/
def firstLineEnd (s : List Char) : List Char := if s.contains '\n' then ['\n'] else []

/-- A text with its quotes. -/
def quoteText (s : List Char) : List Char :=
  match Quoting.choose s with
  | .basic => '"' :: escapeShort s ++ ['"']
  | .literal => '\'' :: s ++ ['\'']
  | .longBasic => "\"\"\"".toList ++ firstLineEnd s ++ escapeLong 0 s ++ "\"\"\"".toList
  | .longLiteral => "'''".toList ++ firstLineEnd s ++ s ++ "'''".toList

end Switchboard.Toml
