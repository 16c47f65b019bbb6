import Mathlib.Tactic.Common
import Switchboard.Toml.Text

/-!
# Quoted texts read back

Whatever a text holds, reading it in the quotes in which it is written gives the text back and
leaves what comes after (`quotedText?_quoteText`).

Reading a basic text first finds its end and then undoes its escapes. Both go along the text piece
by piece: a piece that the writer makes of one character is passed over on the way to the closing
quotes (`Passes`), and stands for that character (`Stands`). Of the quotes themselves at most two
stand in a row, so none of them is taken for the end of a text on several lines.
-/

namespace Switchboard.Toml

/-! ## Pieces of a text -/

/-- A way of finding the closing quotes passes over some characters: wherever they stand, they
belong to the text. -/
def Passes (cut : List Char → Option (List Char × List Char)) (t : List Char) : Prop :=
  ∀ cs, cut (t ++ cs) = (cut cs).map fun (s, rest) => (t ++ s, rest)

/-- Wherever some characters stand in a text with escapes, they stand for one character. -/
def Stands (t : List Char) (c : Char) : Prop :=
  ∀ cs, unescape .closed (t ++ cs) = (unescape .closed cs).map (c :: ·)

section

variable {cut : List Char → Option (List Char × List Char)} {t u : List Char}

/-- Where nothing stands, nothing has to be passed over. -/
theorem Passes.nil : Passes cut [] := fun cs => by
  rw [List.nil_append]
  cases cut cs <;> rfl

/-- What is passed over piece by piece is passed over as one. -/
theorem Passes.append (ht : Passes cut t) (hu : Passes cut u) : Passes cut (t ++ u) := fun cs => by
  rw [List.append_assoc, ht, hu]
  cases cut cs <;> simp

/-- What is passed over one by one is passed over together. -/
theorem Passes.of_forall (h : ∀ c ∈ t, Passes cut [c]) : Passes cut t := by
  induction t with
  | nil => exact .nil
  | cons c t ih =>
    exact (h c List.mem_cons_self).append (ih fun d hd => h d (List.mem_cons_of_mem _ hd))

end

/-- In a basic text on one line everything but a quote and a backslash is passed over. -/
theorem passes_cutBasic {c : Char} (hq : c ≠ '"') (hb : c ≠ '\\') : Passes cutBasic [c] := by
  intro cs
  show cutBasic (c :: cs) = _
  rw [cutBasic.eq_def]
  split <;> simp_all

/-- With a backslash before it, any character is passed over on one line. -/
theorem passes_cutBasic_escape (c : Char) : Passes cutBasic ['\\', c] := fun _ => rfl

/-- What is neither a backslash nor the first of three quotes is passed over. -/
theorem cutLongBasic_cons {c : Char} {cs : List Char} (hb : c ≠ '\\')
    (hq : c = '"' → ∀ cs', cs ≠ '"' :: '"' :: cs') :
    cutLongBasic (c :: cs) = (cutLongBasic cs).map fun (s, rest) => (c :: s, rest) := by
  rw [cutLongBasic.eq_def]
  split <;> rename_i heq
  case h_5 =>
    obtain ⟨rfl, rfl⟩ := List.cons.inj heq
    rfl
  all_goals simp_all

/-- In a basic text on several lines, too, everything but a quote and a backslash is passed over. -/
theorem passes_cutLongBasic {c : Char} (hq : c ≠ '"') (hb : c ≠ '\\') :
    Passes cutLongBasic [c] := fun _ =>
  cutLongBasic_cons hb fun h => absurd h hq

/-- With a backslash before it, any character is passed over on several lines. -/
theorem passes_cutLongBasic_escape (c : Char) : Passes cutLongBasic ['\\', c] := fun _ => rfl

/-- At most two quotes in front of something else are passed over, if a quote is passed over unless
two more come after it. -/
theorem passes_quotes_append {cut : List Char → Option (List Char × List Char)} {q : Char}
    (hquote : ∀ cs, (∀ cs', cs ≠ q :: q :: cs') →
      cut (q :: cs) = (cut cs).map fun (s, rest) => (q :: s, rest))
    {c : Char} {t : List Char} (ht : Passes cut (c :: t)) (hc : c ≠ q) {quotes : Nat}
    (hquotes : quotes ≤ 2) : Passes cut (List.replicate quotes q ++ c :: t) := by
  intro cs
  have hcut := ht cs
  match quotes, hquotes with
  | 0, _ => exact hcut
  | 1, _ =>
    -- Behind the quote stands the other character, so it is not the first of three.
    show cut (q :: (c :: t ++ cs)) = _
    rw [hquote _ (by simp [hc]), hcut]
    cases cut cs <;> rfl
  | 2, _ =>
    show cut (q :: q :: (c :: t ++ cs)) = _
    rw [hquote _ (by simp [hc]), hquote _ (by simp [hc]), hcut]
    cases cut cs <;> rfl

/-! ## Escapes -/

/-- The digit in base sixteen with a value, in upper case. -/
def upperHexDigit (d : Nat) : Char :=
  Char.ofNat (if d < 10 then '0'.toNat + d else 'A'.toNat + (d - 10))

/-- The four digits are those of the number in base sixteen. -/
theorem upperHex4_eq (n : Nat) :
    upperHex4 n = [n / 4096 % 16, n / 256 % 16, n / 16 % 16, n % 16].map upperHexDigit := rfl

/-- A digit is one of base sixteen, has its value, and may stand in a text. -/
theorem upperHexDigit_cases : ∀ d < 16, isHexDigit (upperHexDigit d) = true ∧
    digitValue (upperHexDigit d) = d ∧ isTextChar (upperHexDigit d) = true ∧
    upperHexDigit d ≠ '"' ∧ upperHexDigit d ≠ '\\' := by
  decide

/-- The digits are characters that may stand in a text, and no quotes or backslashes. -/
theorem mem_upperHex4 {n : Nat} {c : Char} (hc : c ∈ upperHex4 n) :
    c ≠ '"' ∧ c ≠ '\\' ∧ isTextChar c = true := by
  rw [upperHex4_eq] at hc
  obtain ⟨d, hd, rfl⟩ := List.mem_map.1 hc
  have hlt : d < 16 := by
    simp only [List.mem_cons, List.not_mem_nil, or_false] at hd
    omega
  obtain ⟨-, -, htext, hquote, hback⟩ := upperHexDigit_cases d hlt
  exact ⟨hquote, hback, htext⟩

/-- Four digits stand for the character with the number that they are of. -/
theorem charOfHex?_upperHex4 {c : Char} (hc : c.toNat < 65536) :
    charOfHex? (upperHex4 c.toNat) = some c := by
  have hdigit : ∀ n, isHexDigit (upperHexDigit (n % 16)) = true ∧
      digitValue (upperHexDigit (n % 16)) = n % 16 := fun n =>
    let h := upperHexDigit_cases (n % 16) (Nat.mod_lt _ (by decide))
    ⟨h.1, h.2.1⟩
  -- Four digits are enough for the number.
  have hvalue : ofDigits 16 (upperHex4 c.toNat) = c.toNat := by
    simp only [upperHex4_eq, ofDigits, List.map_cons, List.map_nil, List.foldl_cons,
      List.foldl_nil, (hdigit _).2]
    omega
  have hall : (upperHex4 c.toNat).all isHexDigit = true := by
    simp [upperHex4_eq, (hdigit _).1]
  rw [charOfHex?, if_pos hall, hvalue]
  exact (if_pos c.valid).trans (congrArg some (Char.ofNat_toNat c))

/-- What needs no escape may stand in a text on several lines as it is. -/
theorem isTextChar_of_not_needsEscape {c : Char} (h : needsEscape c = false) :
    c = '\n' ∨ isTextChar c = true := by
  by_cases htab : c = '\t'
  · exact .inr (by simp [htab, isTextChar])
  · have hdel : c ≠ '\x7f' := by
      rintro rfl
      exact absurd h (by decide)
    by_cases hlow : c < ' '
    · simp_all [needsEscape]
    · exact .inr (by simp [isTextChar, hdel, Char.not_lt.1 hlow])

/-- A piece is a letter after a backslash, a number after a backslash, or the character itself. -/
theorem escapeChar_cases (c : Char) :
    (∃ e, escapeChar c = ['\\', e] ∧ shortEscape? e = some c ∧ isTextChar e = true) ∨
    (escapeChar c = '\\' :: 'u' :: upperHex4 c.toNat ∧ c.toNat < 65536) ∨
    (escapeChar c = [c] ∧ c ≠ '\\' ∧ c ≠ '\r' ∧ (c = '\n' ∨ isTextChar c = true)) := by
  unfold escapeChar
  -- The characters with a letter of their own come first, and of the others some have numbers.
  split_ifs with hbs htab hff hcr hback hesc
  · exact .inl ⟨'b', rfl, by rw [hbs]; rfl, rfl⟩
  · exact .inl ⟨'t', rfl, by rw [htab]; rfl, rfl⟩
  · exact .inl ⟨'f', rfl, by rw [hff]; rfl, rfl⟩
  · exact .inl ⟨'r', rfl, by rw [hcr]; rfl, rfl⟩
  · exact .inl ⟨'\\', rfl, by rw [hback]; rfl, rfl⟩
  · refine .inr (.inl ⟨rfl, ?_⟩)
    simp only [needsEscape, Bool.or_eq_true, Bool.and_eq_true, decide_eq_true_eq, beq_iff_eq] at hesc
    rcases hesc with ⟨⟨hlt, -⟩, -⟩ | rfl
    · exact Nat.lt_trans (show c.toNat < ' '.toNat from hlt) (by decide)
    · decide
  · exact .inr (.inr ⟨rfl, hback, hcr, isTextChar_of_not_needsEscape (by simpa using hesc)⟩)

/-- The piece for a character other than a quote is passed over. -/
theorem passes_escapeChar {cut : List Char → Option (List Char × List Char)}
    (hplain : ∀ {c : Char}, c ≠ '"' → c ≠ '\\' → Passes cut [c])
    (hescape : ∀ c : Char, Passes cut ['\\', c]) {c : Char} (hq : c ≠ '"') :
    Passes cut (escapeChar c) := by
  rcases escapeChar_cases c with ⟨e, heq, -⟩ | ⟨heq, -⟩ | ⟨heq, hb, -⟩
  · rw [heq]
    exact hescape e
  · rw [heq]
    refine (hescape 'u').append (.of_forall fun d hd => ?_)
    obtain ⟨hquote, hback, -⟩ := mem_upperHex4 hd
    exact hplain hquote hback
  · rw [heq]
    exact hplain hq hb

/-! ## What pieces stand for -/

/-- What is neither a backslash nor half a line end stands for itself. -/
theorem stands_plain {c : Char} (hb : c ≠ '\\') (hr : c ≠ '\r') : Stands [c] c := by
  intro cs
  show unescape .closed (c :: cs) = _
  rw [unescape.eq_def]
  split <;> simp_all

/-- A letter after a backslash stands for what it means. -/
theorem stands_short {e c : Char} (he : shortEscape? e = some c) : Stands ['\\', e] c := by
  intro cs
  -- A letter that means a character begins no number, and is no blank or line end.
  -- The number is below that of the first character that is written as it is.
  have hne : e ≠ 'u' ∧ e ≠ 'U' ∧ e ≠ 'x' ∧ e ≠ ' ' ∧ e ≠ '\t' ∧ e ≠ '\n' ∧ e ≠ '\r' := by
    refine ⟨?_, ?_, ?_, ?_, ?_, ?_, ?_⟩ <;> rintro rfl <;> simp [shortEscape?] at he
  obtain ⟨hu, hU, hx, hspace, htab, hlf, hcr⟩ := hne
  show unescape .closed ('\\' :: e :: cs) = _
  rw [unescape.eq_def]
  split <;> rename_i heq
  case h_4 =>
    obtain ⟨rfl, rfl⟩ := List.cons.inj (List.cons.inj heq).2
    cases unescape .closed cs <;> simp [hspace, htab, hlf, hcr, he]
  case h_7 =>
    obtain ⟨rfl, rfl⟩ := List.cons.inj heq
    simp_all
  all_goals simp_all

/-- A number after a backslash stands for the character with that number. -/
theorem stands_hex {c : Char} (hc : c.toNat < 65536) :
    Stands ('\\' :: 'u' :: upperHex4 c.toNat) c := by
  intro cs
  have hvalue := charOfHex?_upperHex4 hc
  rw [upperHex4_eq, List.map_cons, List.map_cons, List.map_cons, List.map_cons, List.map_nil]
    at hvalue ⊢
  show unescape .closed ('\\' :: 'u' :: _ :: _ :: _ :: _ :: cs) = _
  -- The four digits are known to be there, so what follows them is not looked at.
  rw [unescape, if_neg (by decide), hvalue]
  cases unescape .closed cs <;> rfl

/-- The piece for a character stands for it. -/
theorem stands_escapeChar (c : Char) : Stands (escapeChar c) c := by
  rcases escapeChar_cases c with ⟨e, heq, he, -⟩ | ⟨heq, hc⟩ | ⟨heq, hb, hr, -⟩
  · rw [heq]
    exact stands_short he
  · rw [heq]
    exact stands_hex hc
  · rw [heq]
    exact stands_plain hb hr

/-- The piece for a character other than a line feed is made of characters that may stand in a
text. -/
theorem isTextChar_of_mem_escapeChar {c d : Char} (hc : c ≠ '\n') (hd : d ∈ escapeChar c) :
    isTextChar d = true := by
  rcases escapeChar_cases c with ⟨e, heq, -, he⟩ | ⟨heq, -⟩ | ⟨heq, -, -, htext⟩
  · rw [heq] at hd
    simp only [List.mem_cons, List.not_mem_nil, or_false] at hd
    rcases hd with rfl | rfl
    · rfl
    · exact he
  · rw [heq, List.mem_cons, List.mem_cons] at hd
    rcases hd with rfl | rfl | hd
    · rfl
    · rfl
    · exact (mem_upperHex4 hd).2.2
  · rw [heq, List.mem_singleton] at hd
    exact hd ▸ htext.resolve_left hc

/-- A piece begins with a backslash or is the character itself. -/
theorem escapeChar_eq_cons (c : Char) : ∃ d t, escapeChar c = d :: t ∧ (d = '\\' ∨ d = c) := by
  rcases escapeChar_cases c with ⟨e, heq, -⟩ | ⟨heq, -⟩ | ⟨heq, -⟩
  · exact ⟨_, _, heq, .inl rfl⟩
  · exact ⟨_, _, heq, .inl rfl⟩
  · exact ⟨_, _, heq, .inr rfl⟩

/-! ## Texts on one line -/

/-- The piece for a character of a basic text on one line. -/
def shortPiece (c : Char) : List Char :=
  if c = '"' then ['\\', '"'] else if c = '\n' then ['\\', 'n'] else escapeChar c

/-- A basic text on one line is written character by character. -/
theorem escapeShort_eq (s : List Char) : escapeShort s = s.flatMap shortPiece := rfl

/-- What a basic text on one line needs of the pieces that it is made of. -/
theorem shortPiece_spec (c : Char) : Passes cutBasic (shortPiece c) ∧ Stands (shortPiece c) c ∧
    (∀ d ∈ shortPiece c, isTextChar d = true) ∧ ∃ d t, shortPiece c = d :: t ∧ d ≠ '"' := by
  unfold shortPiece
  split_ifs with hq hn
  · subst hq
    exact ⟨passes_cutBasic_escape _, stands_short rfl, List.all_eq_true.1 rfl, _, _, rfl,
      by decide⟩
  · subst hn
    exact ⟨passes_cutBasic_escape _, stands_short rfl, List.all_eq_true.1 rfl, _, _, rfl,
      by decide⟩
  · obtain ⟨d, t, heq, hd⟩ := escapeChar_eq_cons c
    refine ⟨passes_escapeChar passes_cutBasic passes_cutBasic_escape hq, stands_escapeChar c,
      fun d hd => isTextChar_of_mem_escapeChar hn hd, d, t, heq, ?_⟩
    rcases hd with rfl | rfl
    · decide
    · exact hq

/-- All that is written of a basic text on one line is passed over. -/
theorem passes_escapeShort (s : List Char) : Passes cutBasic (escapeShort s) := by
  induction s with
  | nil => exact .nil
  | cons c s ih => exact (shortPiece_spec c).1.append ih

/-- With its escapes undone, a basic text on one line is the text that it was written for. -/
theorem unescape_escapeShort (s : List Char) : unescape .closed (escapeShort s) = some s := by
  induction s with
  | nil => rfl
  | cons c s ih =>
    have hstands := (shortPiece_spec c).2.1 (escapeShort s)
    exact hstands.trans (by rw [ih]; rfl)

/-- A basic text on one line is read back. -/
theorem shortText?_basic (s rest : List Char) :
    shortText? ('"' :: escapeShort s ++ '"' :: rest) = some (String.ofList s, rest) := by
  have hcut : cutBasic (escapeShort s ++ '"' :: rest) = some (escapeShort s, rest) := by
    rw [passes_escapeShort s]
    show some (escapeShort s ++ [], rest) = _
    rw [List.append_nil]
  -- Every piece is of proper text characters.
  have htext : (escapeShort s).all isTextChar = true := by
    rw [List.all_eq_true]
    intro d hd
    obtain ⟨c, -, hd⟩ := List.mem_flatMap.1 hd
    exact (shortPiece_spec c).2.2.1 d hd
  rw [List.cons_append, shortText?, hcut]
  show (if (escapeShort s).all isTextChar = true then _ else _) = _
  rw [if_pos htext, unescape_escapeShort]
  rfl

/-- A literal text on one line is read back, if it can be written so. -/
theorem shortText?_literal {s : List Char} (hs : ∀ c ∈ s, c ≠ '\'' ∧ isTextChar c = true)
    (rest : List Char) : shortText? ('\'' :: s ++ '\'' :: rest) = some (String.ofList s, rest) := by
  -- No quote stands in the text, so it goes on up to the one behind it.
  have hall : ∀ c ∈ s, decide (c ≠ '\'') = true := fun c hc => decide_eq_true (hs c hc).1
  have hcut : cutLiteral (s ++ '\'' :: rest) = some (s, rest) := by
    rw [cutLiteral, List.dropWhile_append_of_pos hall, List.takeWhile_append_of_pos hall]
    simp
  have htext : s.all isTextChar = true := List.all_eq_true.2 fun c hc => (hs c hc).2
  rw [List.cons_append, shortText?, hcut]
  show (if s.all isTextChar = true then _ else _) = _
  rw [if_pos htext]
  rfl

/-! ## Texts on several lines -/

/-- Proper text characters and line feeds make a proper text on several lines. -/
theorem isLongText_of_forall {s : List Char} (hs : ∀ c ∈ s, c = '\n' ∨ isTextChar c = true) :
    isLongText s = true := by
  induction s with
  | nil => rfl
  | cons c s ih =>
    have hc := hs c List.mem_cons_self
    have hcr : c ≠ '\r' := by
      rintro rfl
      exact absurd hc (by decide)
    rw [isLongText.eq_def]
    split <;> rename_i heq
    case h_1 => exact absurd (List.cons.inj heq).1 hcr
    case h_2 =>
      obtain ⟨rfl, rfl⟩ := List.cons.inj heq
      rw [ih fun d hd => hs d (List.mem_cons_of_mem _ hd)]
      simpa using hc
    case h_3 => simp at heq

/-- What the writer makes of one more character of a basic text on several lines: a quote, if no two
stand before it, or a piece that begins with none. -/
theorem escapeLong_cons (quotes : Nat) (c : Char) (s : List Char) :
    (c = '"' ∧ quotes ≠ 2 ∧ escapeLong quotes (c :: s) = '"' :: escapeLong (quotes + 1) s) ∨
    ∃ d t, escapeLong quotes (c :: s) = d :: t ++ escapeLong 0 s ∧ d ≠ '"' ∧
      Passes cutLongBasic (d :: t) ∧ Stands (d :: t) c ∧
      ∀ e ∈ d :: t, e = '\n' ∨ isTextChar e = true := by
  rw [escapeLong]
  split_ifs with hq htwo hn
  · subst hq
    exact .inr ⟨'\\', ['"'], rfl, by decide, passes_cutLongBasic_escape _, stands_short rfl,
      by simp [isTextChar]⟩
  · exact .inl ⟨hq, htwo, rfl⟩
  · subst hn
    exact .inr ⟨'\n', [], rfl, by decide, passes_cutLongBasic (by decide) (by decide),
      stands_plain (by decide) (by decide), by simp⟩
  · obtain ⟨d, t, heq, hd⟩ := escapeChar_eq_cons c
    refine .inr ⟨d, t, by rw [heq], ?_, ?_, ?_, fun e he => ?_⟩
    · rcases hd with rfl | rfl
      · decide
      · exact hq
    · rw [← heq]
      exact passes_escapeChar passes_cutLongBasic passes_cutLongBasic_escape hq
    · rw [← heq]
      exact stands_escapeChar c
    · rw [← heq] at he
      exact .inr (isTextChar_of_mem_escapeChar hn he)

/-- With its escapes undone, a basic text on several lines is the text that it was written for, also
if quotes stand before it. -/
theorem unescape_escapeLong (quotes : Nat) (s : List Char) :
    unescape .closed (escapeLong quotes s) = some s := by
  -- How many quotes stand before changes along the text, so the induction is over all numbers of
  -- them.
  induction s generalizing quotes with
  | nil => rfl
  | cons c s ih =>
    rcases escapeLong_cons quotes c s with ⟨rfl, -, heq⟩ | ⟨d, t, heq, -, -, hstands, -⟩
    · rw [heq]
      exact (stands_plain (by decide) (by decide) _).trans (by rw [ih]; rfl)
    · rw [heq, hstands, ih]
      rfl

/-- What is written of a basic text on several lines may stand there. -/
theorem isLongText_escapeLong (quotes : Nat) (s : List Char) :
    isLongText (escapeLong quotes s) = true := by
  refine isLongText_of_forall ?_
  induction s generalizing quotes with
  | nil => simp [escapeLong]
  | cons c s ih =>
    rcases escapeLong_cons quotes c s with ⟨rfl, -, heq⟩ | ⟨d, t, heq, -, -, -, htext⟩
    · rw [heq]
      exact List.forall_mem_cons.2 ⟨.inr rfl, ih _⟩
    · rw [heq]
      exact List.forall_mem_append.2 ⟨htext, ih 0⟩

/-- Up to five quotes in a row are three closing quotes and those in front of them. -/
theorem cutLongBasic_closing {quotes : Nat} (hquotes : quotes ≤ 2) {rest : List Char}
    (hrest : rest.head? ≠ some '"') :
    cutLongBasic (List.replicate quotes '"' ++ '"' :: '"' :: '"' :: rest) =
      some (List.replicate quotes '"', rest) := by
  have hno : ∀ cs, rest ≠ '"' :: cs := fun cs h => hrest (by rw [h]; rfl)
  match quotes, hquotes with
  | 0, _ =>
    show cutLongBasic ('"' :: '"' :: '"' :: rest) = _
    rw [cutLongBasic] <;> simp [hno]
  | 1, _ =>
    show cutLongBasic ('"' :: '"' :: '"' :: '"' :: rest) = _
    rw [cutLongBasic] <;> simp [hno]
  | 2, _ => rfl

/-- The end of a basic text on several lines is found, also after quotes that stand before it. -/
theorem cutLongBasic_escapeLong {quotes : Nat} (hquotes : quotes ≤ 2) (s : List Char)
    {rest : List Char} (hrest : rest.head? ≠ some '"') :
    cutLongBasic (List.replicate quotes '"' ++ escapeLong quotes s ++ '"' :: '"' :: '"' :: rest) =
      some (List.replicate quotes '"' ++ escapeLong quotes s, rest) := by
  induction s generalizing quotes with
  | nil =>
    rw [escapeLong, List.append_nil]
    exact cutLongBasic_closing hquotes hrest
  | cons c s ih =>
    rcases escapeLong_cons quotes c s with ⟨-, htwo, heq⟩ | ⟨d, t, heq, hd, hpass, -, -⟩
    · -- One quote more stands before the rest of the text.
      have hmove : List.replicate quotes '"' ++ '"' :: escapeLong (quotes + 1) s =
          List.replicate (quotes + 1) '"' ++ escapeLong (quotes + 1) s := by
        rw [List.replicate_succ']
        simp
      rw [heq, hmove]
      exact ih (by omega)
    · have hrest' := @ih 0 (by omega)
      rw [List.replicate_zero, List.nil_append] at hrest'
      rw [heq, ← List.append_assoc, List.append_assoc,
        passes_quotes_append (fun _ h => cutLongBasic_cons (by decide) fun _ => h) hpass hd hquotes,
        hrest']
      rfl

/-- What is not the first of three quotes is passed over. -/
theorem cutLongLiteral_cons {c : Char} {cs : List Char}
    (hq : c = '\'' → ∀ cs', cs ≠ '\'' :: '\'' :: cs') :
    cutLongLiteral (c :: cs) = (cutLongLiteral cs).map fun (s, rest) => (c :: s, rest) := by
  rw [cutLongLiteral.eq_def]
  split <;> rename_i heq
  case h_4 =>
    obtain ⟨rfl, rfl⟩ := List.cons.inj heq
    rfl
  all_goals simp_all

/-- Up to five quotes in a row are, in a literal text too, three closing quotes and those in front
of them. -/
theorem cutLongLiteral_closing {quotes : Nat} (hquotes : quotes ≤ 2) {rest : List Char}
    (hrest : rest.head? ≠ some '\'') :
    cutLongLiteral (List.replicate quotes '\'' ++ '\'' :: '\'' :: '\'' :: rest) =
      some (List.replicate quotes '\'', rest) := by
  have hno : ∀ cs, rest ≠ '\'' :: cs := fun cs h => hrest (by rw [h]; rfl)
  match quotes, hquotes with
  | 0, _ =>
    show cutLongLiteral ('\'' :: '\'' :: '\'' :: rest) = _
    rw [cutLongLiteral] <;> simp [hno]
  | 1, _ =>
    show cutLongLiteral ('\'' :: '\'' :: '\'' :: '\'' :: rest) = _
    rw [cutLongLiteral] <;> simp [hno]
  | 2, _ => rfl

/-- A text without three of a character in a row has none after its start either. -/
theorem hasTriple_of_append {q : Char} {t s : List Char} (h : hasTriple q (t ++ s) = false) :
    hasTriple q s = false := by
  induction t with
  | nil => exact h
  | cons a t ih =>
    refine ih ?_
    rw [List.cons_append] at h
    generalize t ++ s = u at h
    match u with
    | [] | [_] => rfl
    | _ :: _ :: _ => exact (Bool.or_eq_false_iff.1 h).2

/-- The end of a literal text on several lines is found, also after quotes that stand before it. -/
theorem cutLongLiteral_append {quotes : Nat} (hquotes : quotes ≤ 2) {s : List Char}
    (hs : hasTriple '\'' (List.replicate quotes '\'' ++ s) = false) {rest : List Char}
    (hrest : rest.head? ≠ some '\'') :
    cutLongLiteral (List.replicate quotes '\'' ++ s ++ '\'' :: '\'' :: '\'' :: rest) =
      some (List.replicate quotes '\'' ++ s, rest) := by
  induction s generalizing quotes with
  | nil =>
    rw [List.append_nil]
    exact cutLongLiteral_closing hquotes hrest
  | cons c s ih =>
    by_cases hc : c = '\''
    · -- One quote more stands before the rest of the text, but not a third.
      have hmove : List.replicate quotes '\'' ++ c :: s = List.replicate (quotes + 1) '\'' ++ s := by
        rw [hc, List.replicate_succ']
        simp
      rw [hmove] at hs ⊢
      refine ih ?_ hs
      by_contra htoo
      obtain rfl : quotes = 2 := by omega
      simp [List.replicate, hasTriple] at hs
    · have hpass : Passes cutLongLiteral [c] := fun _ => cutLongLiteral_cons fun h => absurd h hc
      have hs' : hasTriple '\'' s = false := by
        rw [← List.singleton_append, ← List.append_assoc] at hs
        exact hasTriple_of_append hs
      have hrest' := @ih 0 (by omega) hs'
      rw [List.replicate_zero, List.nil_append] at hrest'
      rw [← List.singleton_append, ← List.append_assoc, List.append_assoc,
        passes_quotes_append (fun _ h => cutLongLiteral_cons fun _ => h) hpass hc hquotes, hrest']
      simp

/-! ## Reading what was written -/

/-- The line end that stands after the opening quotes is dropped again. -/
theorem dropLineEnd_firstLineEnd {s body : List Char}
    (h : '\n' ∉ s → ∀ c ∈ body, c ≠ '\n' ∧ c ≠ '\r') :
    dropLineEnd (firstLineEnd s ++ body) = body := by
  unfold firstLineEnd
  split_ifs with hn
  · rfl
  · rw [List.nil_append]
    cases body with
    | nil => rfl
    | cons c body =>
      obtain ⟨hlf, hcr⟩ := h (by simpa using hn) c List.mem_cons_self
      rw [dropLineEnd.eq_def]
      split <;> simp_all

/-- No line end is made by writing a text without one. -/
theorem not_lineEnd_of_mem_escapeLong {s : List Char} (hs : '\n' ∉ s) (quotes : Nat) :
    ∀ c ∈ escapeLong quotes s, c ≠ '\n' ∧ c ≠ '\r' := by
  have htext : ∀ c ∈ escapeLong quotes s, isTextChar c = true := by
    induction s generalizing quotes with
    | nil => simp [escapeLong]
    | cons c s ih =>
      obtain ⟨hc, hs⟩ := not_or.1 (List.mem_cons.not.1 hs)
      rw [escapeLong, if_neg (Ne.symm hc)]
      split_ifs
      · exact List.forall_mem_cons.2 ⟨rfl, List.forall_mem_cons.2 ⟨rfl, ih hs 0⟩⟩
      · exact List.forall_mem_cons.2 ⟨rfl, ih hs _⟩
      · exact List.forall_mem_append.2
          ⟨fun d hd => isTextChar_of_mem_escapeChar (Ne.symm hc) hd, ih hs 0⟩
  intro c hc
  constructor <;> rintro rfl <;> exact absurd (htext _ hc) (by decide)

/-- A literal text on one line is chosen only for what can be written so. -/
theorem forall_of_choose_literal {s : List Char} (h : Quoting.choose s = .literal) :
    ∀ c ∈ s, c ≠ '\'' ∧ isTextChar c = true := by
  unfold Quoting.choose at h
  dsimp only at h
  split_ifs at h with _ hliteral
  obtain ⟨⟨hescape, hquote⟩, hline⟩ := by simpa using hliteral
  intro c hc
  refine ⟨fun h => hquote (h ▸ hc), (isTextChar_of_not_needsEscape (hescape c hc)).resolve_left ?_⟩
  exact fun h => hline (h ▸ hc)

/-- So is a literal text on several lines. -/
theorem forall_of_choose_longLiteral {s : List Char} (h : Quoting.choose s = .longLiteral) :
    (∀ c ∈ s, c = '\n' ∨ isTextChar c = true) ∧ hasTriple '\'' s = false := by
  unfold Quoting.choose at h
  dsimp only at h
  split_ifs at h with _ _ _ hliteral
  obtain ⟨hescape, htriple⟩ := by simpa using hliteral
  exact ⟨fun c hc => isTextChar_of_not_needsEscape (hescape c hc), htriple⟩

/-- The line end after the opening quotes is no closing quote. -/
theorem passes_firstLineEnd {cut : List Char → Option (List Char × List Char)}
    (h : Passes cut ['\n']) (s : List Char) : Passes cut (firstLineEnd s) := by
  unfold firstLineEnd
  split_ifs
  · exact h
  · exact .nil

/-- What does not begin with three quotes is a text on one line, if it is one. -/
theorem quotedText?_of_short {q : Char} {cs : List Char} (hcs : ∀ cs', cs ≠ q :: q :: cs') :
    quotedText? (q :: cs) = shortText? (q :: cs) := by
  rw [quotedText?.eq_def]
  split <;> rename_i heq
  case h_3 => rfl
  all_goals
    obtain ⟨rfl, rfl⟩ := List.cons.inj heq
    exact absurd rfl (hcs _)

/-- Whatever a text holds, it is read back from the quotes in which it is written, if no quote comes
after them. -/
theorem quotedText?_quoteText (s : List Char) {rest : List Char} (hbasic : rest.head? ≠ some '"')
    (hliteral : rest.head? ≠ some '\'') :
    quotedText? (quoteText s ++ rest) = some (String.ofList s, rest) := by
  unfold quoteText
  cases hchoose : Quoting.choose s with
  | basic =>
    have hshape : '"' :: escapeShort s ++ ['"'] ++ rest = '"' :: (escapeShort s ++ '"' :: rest) := by
      simp
    dsimp only
    rw [hshape, quotedText?_of_short]
    · exact shortText?_basic s rest
    · -- A quote at the start of the text would have a backslash.
      intro cs' h
      cases s with
      | nil => exact hbasic (by simpa using congrArg List.head? (List.cons.inj h).2)
      | cons c s =>
        obtain ⟨-, -, -, d, t, hpiece, hd⟩ := shortPiece_spec c
        rw [escapeShort_eq, List.flatMap_cons, hpiece] at h
        exact hd (List.cons.inj h).1
  | literal =>
    have hs := forall_of_choose_literal hchoose
    have hshape : '\'' :: s ++ ['\''] ++ rest = '\'' :: (s ++ '\'' :: rest) := by simp
    dsimp only
    rw [hshape, quotedText?_of_short]
    · exact shortText?_literal hs rest
    · intro cs' h
      cases s with
      | nil => exact hliteral (by simpa using congrArg List.head? (List.cons.inj h).2)
      | cons c s => exact (hs c List.mem_cons_self).1 (List.cons.inj h).1
  | longBasic =>
    -- The closing quotes are found behind all that was written, and the line end in front is
    -- dropped.
    have hcut : cutLongBasic (firstLineEnd s ++ (escapeLong 0 s ++ '"' :: '"' :: '"' :: rest)) =
        some (firstLineEnd s ++ escapeLong 0 s, rest) := by
      have hend := cutLongBasic_escapeLong (Nat.zero_le 2) s hbasic
      rw [List.replicate_zero, List.nil_append] at hend
      rw [passes_firstLineEnd (passes_cutLongBasic (by decide) (by decide)), hend]
      rfl
    have hdrop : dropLineEnd (firstLineEnd s ++ escapeLong 0 s) = escapeLong 0 s :=
      dropLineEnd_firstLineEnd fun hs => not_lineEnd_of_mem_escapeLong hs 0
    have hshape : "\"\"\"".toList ++ firstLineEnd s ++ escapeLong 0 s ++ "\"\"\"".toList ++ rest =
        '"' :: '"' :: '"' :: (firstLineEnd s ++ (escapeLong 0 s ++ '"' :: '"' :: '"' :: rest)) := by
      simp
    dsimp only
    rw [hshape, quotedText?, hcut]
    simp [hdrop, isLongText_escapeLong, unescape_escapeLong]
  | longLiteral =>
    obtain ⟨hs, htriple⟩ := forall_of_choose_longLiteral hchoose
    have hcut : cutLongLiteral (firstLineEnd s ++ (s ++ '\'' :: '\'' :: '\'' :: rest)) =
        some (firstLineEnd s ++ s, rest) := by
      have hend := cutLongLiteral_append (Nat.zero_le 2) (s := s) (by simpa using htriple) hliteral
      rw [List.replicate_zero, List.nil_append] at hend
      rw [passes_firstLineEnd fun _ => cutLongLiteral_cons (by simp), hend]
      rfl
    have hdrop : dropLineEnd (firstLineEnd s ++ s) = s := by
      refine dropLineEnd_firstLineEnd fun hn c hc => ⟨fun h => hn (h ▸ hc), ?_⟩
      rintro rfl
      exact absurd (hs _ hc) (by decide)
    have hshape : "'''".toList ++ firstLineEnd s ++ s ++ "'''".toList ++ rest =
        '\'' :: '\'' :: '\'' :: (firstLineEnd s ++ (s ++ '\'' :: '\'' :: '\'' :: rest)) := by
      simp
    dsimp only
    rw [hshape, quotedText?, hcut]
    simp [hdrop, isLongText_of_forall hs]

end Switchboard.Toml
