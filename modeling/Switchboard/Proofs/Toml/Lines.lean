import Switchboard.Proofs.Toml.Quoting
import Switchboard.Toml.Document

/-!
# Lines read back

The lines of a document that holds nothing but tables with plain values: the head of a table, and a
key with a quoted text or a number in base ten. `IsWritten` says that some characters at the end of
a line are read as a value, and `Reads` that a line is read as a statement wherever it stands.
-/

namespace Switchboard.Toml

/-! ## Numbers in base ten -/

section Digits

variable {ds : List Char}

/-- Digits without underscores are their own digits. -/
theorem ungroup?_digits (hne : ds ≠ []) (hds : ∀ c ∈ ds, c.isDigit = true) :
    ungroup? Char.isDigit ds = some ds := by
  induction ds with
  | nil => exact absurd rfl hne
  | cons c ds ih =>
    have hc : c.isDigit = true := hds c List.mem_cons_self
    cases ds with
    | nil => simp [ungroup?, hc]
    | cons d ds =>
      have hd : d ≠ '_' := by
        rintro rfl
        exact absurd (hds '_' (by simp)) (by decide)
      have hrest := ih (by simp) fun e he => hds e (List.mem_cons_of_mem _ he)
      rw [ungroup?] <;> simp [hc, hd, hrest]

/-- A number in base ten is written with digits. -/
theorem isDigit_toDigits (n : Nat) : ∀ c ∈ Nat.toDigits 10 n, c.isDigit = true := fun _ =>
  Nat.isDigit_of_mem_toDigits (by decide) (by decide)

/-- Only the number zero begins with a zero. -/
theorem eq_zero_of_head?_toDigits {n : Nat} (h : (Nat.toDigits 10 n).head? = some '0') : n = 0 := by
  induction n using Nat.strongRecOn with
  | ind n ih =>
    rw [Nat.toDigits_eq_if (by decide)] at h
    split_ifs at h with hn
    · exact Nat.digitChar_eq_zero.1 (Option.some.inj h)
    · -- The first digit is that of a tenth of the number, which is not zero.
      obtain ⟨c, cs, hcs⟩ := List.exists_cons_of_ne_nil (@Nat.toDigits_ne_nil (n / 10) 10)
      rw [hcs] at h
      have := ih (n / 10) (by omega) (by rw [hcs]; exact h)
      omega

/-- The digits of a number are read as the digits of a decimal number. -/
theorem decimalDigits?_toDigits (n : Nat) :
    decimalDigits? (Nat.toDigits 10 n) = some (Nat.toDigits 10 n) := by
  have hdigits := isDigit_toDigits n
  rw [decimalDigits?, ungroup?_digits Nat.toDigits_ne_nil hdigits]
  by_cases hzero : (Nat.toDigits 10 n).head? = some '0'
  · rw [eq_zero_of_head?_toDigits hzero]
    rfl
  · simp [hzero]

/-- The digits of a number stand for it. -/
theorem ofDigits_toDigits (n : Nat) : ofDigits 10 (Nat.toDigits 10 n) = n := by
  have hvalue : ∀ (ds : List Char) (m : Nat), (∀ c ∈ ds, c.isDigit = true) →
      ds.foldl (fun n c => n * 10 + digitValue c) m = Nat.ofDigitChars 10 ds m := by
    intro ds
    induction ds with
    | nil => exact fun _ _ => rfl
    | cons c ds ih =>
      intro m hds
      have hc : digitValue c = c.toNat - '0'.toNat := if_pos (hds c List.mem_cons_self)
      rw [List.foldl_cons, ih _ fun d hd => hds d (List.mem_cons_of_mem _ hd), hc, Nat.mul_comm]
      rfl
  rw [ofDigits, hvalue _ _ (isDigit_toDigits n)]
  exact Nat.ofDigitChars_ten_toDigits

/-- A date has signs between its digits. -/
theorem skipDate?_digits (hds : ∀ c ∈ ds, c.isDigit = true) : skipDate? ds = none := by
  match ds with
  | [] | [_] => rfl
  | [a, b] => simp [skipDate?, twoDigits?, hds]
  | [a, b, c] => simp [skipDate?, twoDigits?, hds]
  | [a, b, c, d] => simp [skipDate?, twoDigits?, hds]
  | a :: b :: c :: d :: e :: ds =>
    -- A date has a sign behind its fourth digit.
    have he : e ≠ '-' := by
      rintro rfl
      exact absurd (hds '-' (by simp)) (by decide)
    simp [skipDate?, twoDigits?, hds, he]

/-- So has a time of day. -/
theorem skipTime?_digits (hds : ∀ c ∈ ds, c.isDigit = true) : skipTime? ds = none := by
  match ds with
  | [] | [_] => rfl
  | [a, b] => simp [skipTime?, twoDigits?, hds]
  | a :: b :: c :: ds =>
    -- A time of day has a colon behind its second digit.
    have hc : c ≠ ':' := by
      rintro rfl
      exact absurd (hds ':' (by simp)) (by decide)
    simp [skipTime?, twoDigits?, hds, hc]

/-- The digits of a number are read as that number. -/
theorem integer?_toDigits (n : Nat) : integer? (Nat.toDigits 10 n) = some (n : Int) := by
  have hvalue := ofDigits_toDigits n
  have hdecimal := decimalDigits?_toDigits n
  have hdigits := isDigit_toDigits n
  generalize Nat.toDigits 10 n = ds at hvalue hdecimal hdigits ⊢
  -- No digit is a sign, and none is the letter of another base.
  have hsign : splitSign ds = (false, ds) := by
    rw [splitSign.eq_def]
    split
    · exact absurd (hdigits '-' (by simp)) (by decide)
    · exact absurd (hdigits '+' (by simp)) (by decide)
    · rfl
  rw [integer?.eq_def]
  split
  · exact absurd (hdigits 'x' (by simp)) (by decide)
  · exact absurd (hdigits 'o' (by simp)) (by decide)
  · exact absurd (hdigits 'b' (by simp)) (by decide)
  · simp [hsign, hdecimal, hvalue]

/-- The digits of a number are read as that number, not as a word, a date or a float. -/
theorem scalar?_toDigits (n : Nat) : scalar? (Nat.toDigits 10 n) = some (.ofInt n) := by
  have hdigits := isDigit_toDigits n
  -- The words begin with letters, and dates and times have signs between their digits.
  have htrue : Nat.toDigits 10 n ≠ "true".toList := fun h =>
    absurd (hdigits 't' (by rw [h]; decide)) (by decide)
  have hfalse : Nat.toDigits 10 n ≠ "false".toList := fun h =>
    absurd (hdigits 'f' (by rw [h]; decide)) (by decide)
  have hdate : isDatetime (Nat.toDigits 10 n) = false := by
    rw [isDatetime, skipDate?_digits hdigits]
    show (skipTime? _ == some []) = false
    rw [skipTime?_digits hdigits]
    rfl
  rw [scalar?, if_neg htrue, if_neg hfalse, if_neg (by simp [hdate]), integer?_toDigits]

end Digits

/-! ## Values at the end of a line -/

/-- Some characters that begin with no blank are read as a value, if they stand at the end of a
line. -/
structure IsWritten (t : List Char) (v : Value) : Prop where
  /-- They are read as the value, and nothing of what comes after them. -/
  reads : ∀ rest, value? nestingLimit (t ++ '\n' :: rest) = some (.plain v, '\n' :: rest)
  /-- They begin with no blank. -/
  start : ∀ rest, skipSpace (t ++ '\n' :: rest) = t ++ '\n' :: rest

/-- A value that begins with no bracket holds no others. -/
theorem value?_eq_plain? {depth : Nat} {c : Char} {cs : List Char} (harray : c ≠ '[')
    (htable : c ≠ '\x7b') : value? depth (c :: cs) = plain? (c :: cs) := by
  rw [value?.eq_def]
  split
  · rfl
  · split <;> simp_all

/-- A value without quotes that ends at the end of a line is a run of its characters. -/
theorem plain?_scalar {c : Char} {cs rest : List Char} {v : Value}
    (hrun : ∀ d ∈ c :: cs, isScalarChar d = true) (hv : scalar? (c :: cs) = some v) :
    plain? (c :: cs ++ '\n' :: rest) = some (.plain v, '\n' :: rest) := by
  -- The run of characters stops at the end of the line.
  have hcut : cutScalar (c :: cs ++ '\n' :: rest) = (c :: cs, '\n' :: rest) := by
    rw [cutScalar, List.takeWhile_append_of_pos hrun, List.dropWhile_append_of_pos hrun]
    simp [show isScalarChar '\n' = false by decide]
  have hc := hrun c List.mem_cons_self
  rw [plain?.eq_def]
  split <;> rename_i heq
  · exact absurd ((List.cons.inj heq).1 ▸ hc) (by decide)
  · exact absurd ((List.cons.inj heq).1 ▸ hc) (by decide)
  · rw [hcut]
    dsimp only
    rw [hv]
    rfl

/-- A number is written with its digits. -/
theorem isWritten_toDigits (n : Nat) : IsWritten (Nat.toDigits 10 n) (.ofInt n) := by
  have hdigits := isDigit_toDigits n
  have hscalar := scalar?_toDigits n
  obtain ⟨c, ds, hds⟩ := List.exists_cons_of_ne_nil (@Nat.toDigits_ne_nil n 10)
  rw [hds] at hdigits hscalar ⊢
  have hc := hdigits c List.mem_cons_self
  -- A digit opens neither an array nor a table, and it is no blank.
  have hne : c ≠ '[' ∧ c ≠ '\x7b' ∧ isSpace c = false := by
    refine ⟨?_, ?_, ?_⟩
    · rintro rfl
      exact absurd hc (by decide)
    · rintro rfl
      exact absurd hc (by decide)
    · by_contra hspace
      simp only [isSpace, Bool.not_eq_false, Bool.or_eq_true, beq_iff_eq] at hspace
      rcases hspace with rfl | rfl <;> exact absurd hc (by decide)
  constructor
  · intro rest
    have hrun : ∀ d ∈ c :: ds, isScalarChar d = true := fun d hd => by
      simp [isScalarChar, Char.isAlphanum, hdigits d hd]
    rw [← plain?_scalar hrun hscalar]
    exact value?_eq_plain? hne.1 hne.2.1
  · intro rest
    exact List.dropWhile_cons_of_neg (by simp [hne.2.2])

/-- A quoted text begins with a quote. -/
theorem quoteText_eq_cons (s : List Char) :
    ∃ q cs, quoteText s = q :: cs ∧ (q = '"' ∨ q = '\'') := by
  unfold quoteText
  cases Quoting.choose s with
  | basic => exact ⟨_, _, rfl, .inl rfl⟩
  | literal => exact ⟨_, _, rfl, .inr rfl⟩
  | longBasic => exact ⟨'"', _, by simp; rfl, .inl rfl⟩
  | longLiteral => exact ⟨'\'', _, by simp; rfl, .inr rfl⟩

/-- A text is written in quotes. -/
theorem isWritten_quoteText (s : List Char) : IsWritten (quoteText s) (.string (String.ofList s)) := by
  obtain ⟨q, cs, hcs, hq⟩ := quoteText_eq_cons s
  constructor
  · intro rest
    -- What is read back is the text; the two quotes differ in the branch alone.
    have hread := @quotedText?_quoteText s ('\n' :: rest) (by simp) (by simp)
    rw [hcs, List.cons_append] at hread ⊢
    rcases hq with rfl | rfl
    · rw [value?_eq_plain? (by decide) (by decide), plain?, hread]
      rfl
    · rw [value?_eq_plain? (by decide) (by decide), plain?, hread]
      rfl
  · intro rest
    rw [hcs]
    refine List.dropWhile_cons_of_neg ?_
    rcases hq with rfl | rfl <;> decide

/-! ## Lines -/

/-- A key without quotes. -/
def IsBareKey (k : String) : Prop := k.toList ≠ [] ∧ k.toList.all isBareKeyChar = true

instance (k : String) : Decidable (IsBareKey k) := inferInstanceAs (Decidable (_ ∧ _))

/-- A line that assigns a value to a key. -/
def assignLine (k : String) (t : List Char) : List Char :=
  k.toList ++ ' ' :: '=' :: ' ' :: t ++ ['\n']

/-- The head of a table on its line. -/
def headLine (k : String) : List Char := '[' :: k.toList ++ [']', '\n']

/-- A line, perhaps with empty lines before it, is read as a statement wherever it stands. -/
def Reads (line : List Char) (s : Statement) : Prop :=
  ∀ rest, ∃ cs, skipLines false (line ++ rest) = some cs ∧ cs ≠ [] ∧
    statement? cs = some (s, rest)

/-- A character of a key is none of those that have a meaning of their own. -/
theorem ne_of_isBareKeyChar {c d : Char} (hc : isBareKeyChar c = true)
    (hd : isBareKeyChar d = false := by decide) : c ≠ d := by
  rintro rfl
  simp [hc] at hd

/-- A key without quotes is a path of its own, up to something that neither belongs to a key nor
goes on with the path. -/
theorem path?_bare {k : String} (hk : IsBareKey k) {c : Char} {cs rest : List Char}
    (hc : isBareKeyChar c = false) (hrest : skipSpace (c :: cs) = rest)
    (hdot : rest.head? ≠ some '.') (fuel : Nat) :
    path? (fuel + 1) (k.toList ++ c :: cs) = some ([k], rest) := by
  obtain ⟨hne, hall⟩ := hk
  rw [List.all_eq_true] at hall
  have hkey : key? (k.toList ++ c :: cs) = some (k, c :: cs) := by
    -- The key goes on as long as its characters do, and what is behind it is none of them.
    have htake : (k.toList ++ c :: cs).takeWhile isBareKeyChar = k.toList := by
      rw [List.takeWhile_append_of_pos hall]
      simp [hc]
    have hdrop : (k.toList ++ c :: cs).dropWhile isBareKeyChar = c :: cs := by
      rw [List.dropWhile_append_of_pos hall]
      simp [hc]
    obtain ⟨a, as, has⟩ := List.exists_cons_of_ne_nil hne
    have ha : isBareKeyChar a = true := hall a (by simp [has])
    rw [key?.eq_def]
    split <;> rename_i heq
    · rw [has] at heq
      exact absurd (List.cons.inj heq).1 (ne_of_isBareKeyChar ha)
    · rw [has] at heq
      exact absurd (List.cons.inj heq).1 (ne_of_isBareKeyChar ha)
    · simp [htake, hdrop, hne]
  rw [path?, hkey]
  simp only [Option.bind_eq_bind, Option.bind_some, hrest]
  split
  · exact absurd rfl hdot
  · rfl

/-- A line begins with a key or a bracket, and neither is passed over as empty. -/
theorem skipLines_of_start {c : Char} {cs : List Char} (h : isBareKeyChar c = true ∨ c = '[') :
    skipLines false (c :: cs) = some (c :: cs) := by
  have hne : c ≠ '\r' ∧ c ≠ '\n' ∧ c ≠ '#' ∧ c ≠ ' ' ∧ c ≠ '\t' := by
    rcases h with h | rfl
    · exact ⟨ne_of_isBareKeyChar h, ne_of_isBareKeyChar h, ne_of_isBareKeyChar h,
        ne_of_isBareKeyChar h, ne_of_isBareKeyChar h⟩
    · decide
  obtain ⟨hcr, hlf, hhash, hspace, htab⟩ := hne
  rw [skipLines.eq_def]
  split <;> simp_all [isSpace]

/-- A line that assigns a value to a key is read so. -/
theorem reads_assignLine {k : String} (hk : IsBareKey k) {t : List Char} {v : Value}
    (ht : IsWritten t v) : Reads (assignLine k t) (.assign [k] (.plain v)) := by
  intro rest
  have hline : assignLine k t ++ rest = k.toList ++ ' ' :: '=' :: ' ' :: (t ++ '\n' :: rest) := by
    simp [assignLine]
  have hfield : field? (value? nestingLimit) (k.toList ++ ' ' :: '=' :: ' ' :: (t ++ '\n' :: rest)) =
      some (([k], .plain v), '\n' :: rest) := by
    -- Key, sign and value are read one after the other, with the blanks between them passed over.
    rw [field?, path?_bare hk (by decide) rfl (by simp [skipSpace, isSpace])]
    have hskip : skipSpace (' ' :: (t ++ '\n' :: rest)) = t ++ '\n' :: rest := ht.start rest
    have hequals : skipSpace (' ' :: '=' :: ' ' :: (t ++ '\n' :: rest)) =
        '=' :: ' ' :: (t ++ '\n' :: rest) := rfl
    rw [hequals]
    simp only [Option.bind_eq_bind, Option.bind_some]
    rw [hskip, ht.reads]
    rfl
  obtain ⟨a, as, has⟩ := List.exists_cons_of_ne_nil hk.1
  have ha : isBareKeyChar a = true := List.all_eq_true.1 hk.2 a (by simp [has])
  rw [hline]
  refine ⟨k.toList ++ ' ' :: '=' :: ' ' :: (t ++ '\n' :: rest), ?_, by simp, ?_⟩
  · rw [has]
    exact skipLines_of_start (.inl ha)
  -- A line that begins with a character of a key is no head of a table.
  · rw [statement?.eq_def]
    split <;> rename_i heq
    · rw [has] at heq
      exact absurd (List.cons.inj heq).1 (ne_of_isBareKeyChar ha)
    · rw [has] at heq
      exact absurd (List.cons.inj heq).1 (ne_of_isBareKeyChar ha)
    · rw [hfield]
      rfl

/-- The head of a table is read as such. -/
theorem reads_headLine {k : String} (hk : IsBareKey k) : Reads (headLine k) (.table [k]) := by
  intro rest
  have hline : headLine k ++ rest = '[' :: (k.toList ++ ']' :: '\n' :: rest) := by
    simp [headLine]
  obtain ⟨a, as, has⟩ := List.exists_cons_of_ne_nil hk.1
  have ha : isBareKeyChar a = true := List.all_eq_true.1 hk.2 a (by simp [has])
  have hheader : header? [']'] (k.toList ++ ']' :: '\n' :: rest) = some ([k], rest) := by
    have hskip : skipSpace (k.toList ++ ']' :: '\n' :: rest) = k.toList ++ ']' :: '\n' :: rest := by
      have hspace : isSpace a = false := by
        simp [isSpace, ne_of_isBareKeyChar (d := ' ') ha, ne_of_isBareKeyChar (d := '\t') ha]
      rw [has]
      exact List.dropWhile_cons_of_neg (by simp [hspace])
    rw [header?, hskip, path?_bare hk (by decide) rfl (by simp [skipSpace, isSpace])]
    rfl
  rw [hline]
  refine ⟨_, skipLines_of_start (.inr rfl), by simp, ?_⟩
  rw [statement?.eq_def]
  -- The second bracket of an array of tables is no character of a key.
  split <;> rename_i heq
  · rw [has] at heq
    exact absurd (List.cons.inj (List.cons.inj heq).2).1 (ne_of_isBareKeyChar ha)
  · obtain rfl := (List.cons.inj heq).2
    rw [hheader]
    rfl
  · exact absurd rfl (heq _)

/-- Empty lines are passed over. -/
theorem Reads.afterEmptyLine {line : List Char} {s : Statement} (h : Reads line s) :
    Reads ('\n' :: line) s := h

/-- Lines that are read as statements are read one after the other. -/
theorem statements?_of_reads {lines : List (List Char)} {ss : List Statement}
    (h : List.Forall₂ Reads lines ss) {fuel : Nat} (hfuel : lines.length < fuel) :
    statements? fuel lines.flatten = some ss := by
  induction h generalizing fuel with
  | nil =>
    obtain ⟨fuel, rfl⟩ := Nat.exists_eq_succ_of_ne_zero (Nat.ne_of_gt hfuel)
    rfl
  | @cons line s lines ss hline _ ih =>
    obtain ⟨fuel, rfl⟩ := Nat.exists_eq_succ_of_ne_zero (Nat.ne_of_gt (Nat.zero_lt_of_lt hfuel))
    obtain ⟨cs, hskip, hne, hread⟩ := hline lines.flatten
    rw [List.flatten_cons, statements?, hskip]
    cases cs with
    | nil => exact absurd rfl hne
    | cons c cs =>
      simp only [Option.bind_eq_bind, Option.bind_some]
      rw [hread]
      simp [ih (Nat.lt_of_succ_lt_succ hfuel)]

end Switchboard.Toml
