import Mathlib.Tactic.Common
import Switchboard.Duration.Text

/-!
# Lengths of time read back

A length of time is written as amounts of nine units, and reading the text adds them up again:
`ofText?_render` says that this gives the length back. Reading an amount ends in its unit, where the
reader knows the digits as a number (`foldlM_amount`); the blank after it adds the amount to the sum
(`readAmounts`). The sum of all amounts is the length, and none of the sums on the way is larger
(`addAmounts`), so nothing overflows.
-/

namespace Switchboard.Duration

/-- An amount of a unit, under the name with which the unit is written. -/
structure Piece where
  /-- How many. -/
  count : Nat
  /-- Of what. -/
  unit : TimeUnit
  /-- What it is called. -/
  name : String

namespace Piece

/-- The text of an amount. -/
def text (p : Piece) : String := toString p.count ++ p.name

/-- An amount that can be read. -/
structure Legible (p : Piece) : Prop where
  /-- The name is one of the unit's. -/
  named : TimeUnit.ofName? p.name = some p.unit
  /-- The name is made of letters. -/
  letters : ∀ c ∈ p.name.toList, Reader.isUnitLetter c = true ∧ Reader.digit? c = none ∧
    Text.isBlank c = false
  /-- The number fits. -/
  fits : p.count < UInt64.size

end Piece

/-! ## Reading an amount -/

/-- Reading more digits makes no number smaller. -/
theorem le_ofDigitChars (ds : List Char) (n : Nat) : n ≤ Nat.ofDigitChars 10 ds n := by
  induction ds generalizing n with
  | nil => exact Nat.le_refl n
  | cons c ds ih =>
    have := ih (10 * n + (c.toNat - '0'.toNat))
    show n ≤ Nat.ofDigitChars 10 ds (10 * n + (c.toNat - '0'.toNat))
    omega

/-- Digits are read as the number that they stand for, if it fits. -/
theorem foldlM_digits (total : Duration) {ds : List Char} (hds : ∀ c ∈ ds, c.isDigit = true)
    {n : Nat} (hn : Nat.ofDigitChars 10 ds n < UInt64.size) :
    ds.foldlM Reader.step (.whole total n) = some (.whole total (Nat.ofDigitChars 10 ds n)) := by
  induction ds generalizing n with
  | nil => rfl
  | cons c ds ih =>
    have hc : c.isDigit = true := hds c List.mem_cons_self
    have hnext : Nat.ofDigitChars 10 (c :: ds) n =
        Nat.ofDigitChars 10 ds (n * 10 + (c.toNat - '0'.toNat)) := by
      rw [Nat.mul_comm]
      rfl
    rw [hnext] at hn ⊢
    -- Reading on only makes a number larger, so what has been read so far fits since the whole
    -- does.
    have hle := le_ofDigitChars ds (n * 10 + (c.toNat - '0'.toNat))
    have hstep : Reader.step (.whole total n) c =
        some (.whole total (n * 10 + (c.toNat - '0'.toNat))) := by
      simp only [Reader.step, Reader.digit?, hc, if_true, fit64?]
      rw [if_pos (Nat.lt_of_le_of_lt hle hn)]
      rfl
    rw [List.foldlM_cons, hstep]
    exact ih (fun c hc => hds c (List.mem_cons_of_mem _ hc)) hn

/-- The first digit is read as the others are. -/
theorem foldlM_between (total : Option Duration) {c : Char} {cs : List Char}
    (hc : c.isDigit = true) :
    (c :: cs).foldlM Reader.step (.between total) =
      (c :: cs).foldlM Reader.step (.whole (total.getD zero) 0) := by
  have hfits : c.toNat - '0'.toNat < UInt64.size := by
    have := Char.isDigit_iff_toNat.1 hc
    have h9 : '9'.toNat - '0'.toNat < UInt64.size := by decide
    omega
  simp only [List.foldlM_cons, Reader.step, Reader.digit?, hc, if_true, fit64?, Nat.zero_mul,
    Nat.zero_add, if_pos hfits]
  rfl

/-- The letters of a unit are collected. -/
theorem foldlM_letters (total : Duration) (n : Nat) {cs : List Char}
    (hcs : ∀ c ∈ cs, Reader.isUnitLetter c = true ∧ Reader.digit? c = none ∧
      Text.isBlank c = false) (letters : List Char) :
    cs.foldlM Reader.step (.unit total n none letters) =
      some (.unit total n none (letters ++ cs)) := by
  induction cs generalizing letters with
  | nil => rw [List.append_nil]; rfl
  | cons c cs ih =>
    obtain ⟨hletter, hdigit, hblank⟩ := hcs c List.mem_cons_self
    have hstep : Reader.step (.unit total n none letters) c =
        some (.unit total n none (letters ++ [c])) := by
      simp [Reader.step, hletter, hdigit, hblank]
    rw [List.foldlM_cons, hstep]
    exact (ih (fun c hc => hcs c (List.mem_cons_of_mem _ hc)) _).trans (by simp)

/-- After an amount the reader is in its unit and knows its number. -/
theorem foldlM_amount {p : Piece} (hp : p.Legible) (total : Option Duration) :
    p.text.toList.foldlM Reader.step (.between total) =
      some (.unit (total.getD zero) p.count none p.name.toList) := by
  have hnumber : (toString p.count).toList = Nat.toDigits 10 p.count := by
    rw [Nat.toString_eq_ofList_toDigits, String.toList_ofList]
  have hdigits : ∀ c ∈ Nat.toDigits 10 p.count, c.isDigit = true := fun c hc =>
    Nat.isDigit_of_mem_toDigits (by decide) (by decide) hc
  have hwhole : (Nat.toDigits 10 p.count).foldlM Reader.step (.between total) =
      some (.whole (total.getD zero) p.count) := by
    have hvalue := @Nat.ofDigitChars_ten_toDigits p.count
    cases hds : Nat.toDigits 10 p.count with
    | nil => exact absurd hds Nat.toDigits_ne_nil
    | cons c cs =>
      rw [hds] at hdigits hvalue
      rw [foldlM_between total (hdigits c List.mem_cons_self),
        foldlM_digits _ hdigits (by rw [hvalue]; exact hp.fits), hvalue]
  rw [Piece.text, String.toList_append, hnumber, List.foldlM_append, hwhole]
  -- The first letter takes the reader from the number into the unit.
  cases hname : p.name.toList with
  | nil =>
    have hempty : p.name = "" := String.toList_eq_nil_iff.1 hname
    have hnamed := hp.named
    rw [hempty] at hnamed
    exact absurd hnamed (by simp [show TimeUnit.ofName? "" = none by decide])
  | cons c cs =>
    have hletters := hp.letters
    rw [hname] at hletters
    obtain ⟨hletter, hdigit, hblank⟩ := hletters c List.mem_cons_self
    have hstep : Reader.step (.whole (total.getD zero) p.count) c =
        some (.unit (total.getD zero) p.count none [c]) := by
      simp [Reader.step, hletter, hdigit, hblank]
    rw [Option.bind_eq_bind, Option.bind_some, List.foldlM_cons, hstep]
    exact foldlM_letters _ _ (fun c hc => hletters c (List.mem_cons_of_mem _ hc)) [c]

/-! ## Reading amounts -/

/-- A length with some amounts more, if everything fits. -/
def addPieces? (d : Duration) (ps : List Piece) : Option Duration :=
  ps.foldlM (fun d p => d.addAmount? p.count none p.unit) d

/-- Reading amounts with blanks between them adds them up. -/
theorem readAmounts {p : Piece} {ps : List Piece} (hps : ∀ q ∈ p :: ps, q.Legible)
    (total : Option Duration) :
    ((" ".intercalate ((p :: ps).map (·.text))).toList.foldlM Reader.step (.between total)).bind
      Reader.result? = (total.getD zero).addPieces? (p :: ps) := by
  induction ps generalizing p total with
  | nil =>
    have hp := hps p List.mem_cons_self
    rw [List.map_singleton, String.intercalate_singleton, foldlM_amount hp]
    simp [Reader.result?, Reader.complete?, addPieces?, hp.named]
  | cons q ps ih =>
    have hp := hps p List.mem_cons_self
    rw [List.map_cons, List.map_cons, String.intercalate_cons_cons, String.toList_append,
      String.toList_append, List.append_assoc, List.foldlM_append, foldlM_amount hp,
      Option.bind_eq_bind, Option.bind_some]
    -- The blank completes the amount.
    have hblank : Reader.step (.unit (total.getD zero) p.count none p.name.toList) ' ' =
        ((total.getD zero).addAmount? p.count none p.unit).map fun sum => .between (some sum) := by
      simp [Reader.step, Reader.complete?, hp.named, show Reader.digit? ' ' = none by decide,
        show Text.isBlank ' ' = true by decide]
    show ((' ' :: _).foldlM Reader.step _).bind _ = _
    rw [List.foldlM_cons, hblank, addPieces?, List.foldlM_cons]
    cases (total.getD zero).addAmount? p.count none p.unit with
    | none => rfl
    | some sum => exact ih (fun r hr => hps r (List.mem_cons_of_mem _ hr)) (some sum)

/-- What amounts read to is what their text stands for; only a lone zero would be read otherwise. -/
theorem ofText?_of_read {s : String} {d : Duration}
    (h : (s.toList.foldlM Reader.step (.between none)).bind Reader.result? = some d) :
    ofText? s = some d := by
  have hzero : s ≠ "0" := by
    rintro rfl
    have hnone : ("0".toList.foldlM Reader.step (.between none)).bind Reader.result? = none := by
      decide
    exact absurd (hnone.symm.trans h) (by simp)
  rw [ofText?, if_neg (by simpa using hzero), h]

/-! ## Adding amounts -/

/-- Two durations can be added if their seconds fit and their rests make no second. -/
theorem add?_eq (d : Duration) (seconds nanos : Nat) (hs : d.seconds + seconds < UInt64.size)
    (hn : d.nanos + nanos < nanosPerSecond) :
    d.add? seconds nanos = some ⟨d.seconds + seconds, d.nanos + nanos, hs, hn⟩ := by
  have hsize : nanosPerSecond ≤ UInt64.size := by decide
  have hdiv : (d.nanos + nanos) / nanosPerSecond = 0 := Nat.div_eq_of_lt hn
  have hmod : (d.nanos + nanos) % nanosPerSecond = d.nanos + nanos := Nat.mod_eq_of_lt hn
  rw [add?, fit64?, if_pos (Nat.lt_of_lt_of_le hn hsize)]
  show make? (d.seconds + seconds) (d.nanos + nanos) = _
  rw [make?, dif_pos (by rw [hdiv]; exact hs)]
  refine congrArg some (ext ?_ hmod)
  show d.seconds + seconds + (d.nanos + nanos) / nanosPerSecond = d.seconds + seconds
  rw [hdiv, Nat.add_zero]

/-- The nanoseconds of a unit that is counted in them. -/
def TimeUnit.inNanos (u : TimeUnit) : Nat := u.nanos?.getD 0

/-- An amount of a unit counts in seconds or in nanoseconds. -/
theorem addAmount?_eq {d : Duration} {n : Nat} {u : TimeUnit}
    (hs : d.seconds + n * u.seconds < UInt64.size)
    (hn : d.nanos + n * u.inNanos < nanosPerSecond) :
    d.addAmount? n none u = some ⟨d.seconds + n * u.seconds, d.nanos + n * u.inNanos, hs, hn⟩ := by
  have hsize : nanosPerSecond ≤ UInt64.size := by decide
  have hfits : n * u.seconds < UInt64.size := by omega
  have hfits' : n * u.inNanos < UInt64.size := by omega
  -- A unit counts in nanoseconds or in seconds, and nothing is added to the other.
  cases hu : u.nanos? with
  | none =>
    have hzero : u.inNanos = 0 := by rw [TimeUnit.inNanos, hu]; rfl
    have hadd := add?_eq d (n * u.seconds) 0 hs d.nanos_lt
    simp [addAmount?, hu, fit64?, hfits, hadd, hzero]
  | some size =>
    have hzero : u.seconds = 0 := by cases u <;> simp [TimeUnit.nanos?] at hu <;> rfl
    have hsize : u.inNanos = size := by rw [TimeUnit.inNanos, hu]; rfl
    rw [hsize] at hn hfits'
    have hadd := add?_eq d 0 (n * size) d.seconds_lt hn
    simp [addAmount?, hu, fit64?, hfits', hadd, hzero, hsize]

/-- The sum of amounts, each counted in some smaller unit. -/
def sumIn (size : TimeUnit → Nat) (ps : List Piece) : Nat :=
  ps.foldr (fun p sum => p.count * size p.unit + sum) 0

/-- What the first piece stands for is added to what the others do. -/
theorem sumIn_cons (size : TimeUnit → Nat) (p : Piece) (ps : List Piece) :
    sumIn size (p :: ps) = p.count * size p.unit + sumIn size ps := rfl

/-- Amounts of nothing add nothing. -/
theorem sumIn_filter (size : TimeUnit → Nat) (ps : List Piece) :
    sumIn size (ps.filter (·.count ≠ 0)) = sumIn size ps := by
  induction ps with
  | nil => rfl
  | cons p ps ih =>
    by_cases hp : p.count = 0
    · rw [List.filter_cons_of_neg (by simp [hp]), ih, sumIn_cons, hp, Nat.zero_mul, Nat.zero_add]
    · rw [List.filter_cons_of_pos (by simp [hp]), sumIn_cons, sumIn_cons, ih]

/-- Amounts whose sum fits are added up without an overflow on the way. -/
theorem addPieces?_eq {d : Duration} {ps : List Piece}
    (hs : d.seconds + sumIn TimeUnit.seconds ps < UInt64.size)
    (hn : d.nanos + sumIn TimeUnit.inNanos ps < nanosPerSecond) :
    d.addPieces? ps = some ⟨d.seconds + sumIn TimeUnit.seconds ps,
      d.nanos + sumIn TimeUnit.inNanos ps, hs, hn⟩ := by
  induction ps generalizing d with
  | nil => rfl
  | cons p ps ih =>
    rw [sumIn_cons, ← Nat.add_assoc] at hs hn
    have hadd := addAmount?_eq (Nat.lt_of_le_of_lt (Nat.le_add_right _ _) hs)
      (Nat.lt_of_le_of_lt (Nat.le_add_right _ _) hn)
    rw [addPieces?, List.foldlM_cons, hadd]
    have hsum : ∀ size, sumIn size (p :: ps) = p.count * size p.unit + sumIn size ps :=
      fun size => sumIn_cons size p ps
    simp only [hsum, ← Nat.add_assoc]
    exact ih hs hn

/-! ## The amounts of a length -/

/-- The name of a unit that is written as a word, with an `s` for more than one. -/
def plural (n : Nat) (name : String) : String := name ++ if n > 1 then "s" else ""

/-- The amounts of a length, from years down to nanoseconds. -/
def pieces (d : Duration) : List Piece :=
  let afterYears := d.seconds % TimeUnit.year.seconds
  let afterMonths := afterYears % TimeUnit.month.seconds
  let afterDays := afterMonths % TimeUnit.day.seconds
  let years := d.seconds / TimeUnit.year.seconds
  let months := afterYears / TimeUnit.month.seconds
  let days := afterMonths / TimeUnit.day.seconds
  [⟨years, .year, plural years "year"⟩, ⟨months, .month, plural months "month"⟩,
    ⟨days, .day, plural days "day"⟩, ⟨afterDays / 3600, .hour, "h"⟩,
    ⟨afterDays % 3600 / 60, .minute, "m"⟩, ⟨afterDays % 60, .second, "s"⟩,
    ⟨d.nanos / 1000000, .millisecond, "ms"⟩, ⟨d.nanos / 1000 % 1000, .microsecond, "us"⟩,
    ⟨d.nanos % 1000, .nanosecond, "ns"⟩]

/-- An amount is written unless it is of nothing. -/
theorem amount_eq (n : Nat) (u : TimeUnit) (name : String) (inWords : Bool) :
    amount n name inWords = (([⟨n, u, if inWords then plural n name else name⟩] : List Piece).filter
      (·.count ≠ 0)).map (·.text) := by
  by_cases hn : n = 0
  · simp [amount, hn]
  · cases inWords <;> simp [amount, hn, Piece.text, plural, String.append_assoc]

/-- What is written is every amount that is not of nothing. -/
theorem amounts_eq (d : Duration) :
    d.amounts = (d.pieces.filter (·.count ≠ 0)).map (·.text) := by
  unfold amounts
  dsimp only
  rw [amount_eq _ .year "year", amount_eq _ .month "month", amount_eq _ .day "day",
    amount_eq _ .hour "h", amount_eq _ .minute "m", amount_eq _ .second "s",
    amount_eq _ .millisecond "ms", amount_eq _ .microsecond "us", amount_eq _ .nanosecond "ns"]
  simp only [← List.map_append, ← List.filter_append]
  rfl

/-- Every name in a text of a length is made of letters. -/
theorem legible_of_name {n : Nat} {u : TimeUnit} {name : String} (hn : n < UInt64.size)
    (h : TimeUnit.ofName? name = some u ∧ name.toList.all (fun c =>
      Reader.isUnitLetter c && (Reader.digit? c).isNone && !Text.isBlank c) = true) :
    Piece.Legible ⟨n, u, name⟩ := by
  refine ⟨h.1, fun c hc => ?_, hn⟩
  have hall := List.all_eq_true.1 h.2 c hc
  simpa [and_assoc] using hall

/-- What is written can be read. -/
theorem legible_of_mem_pieces {d : Duration} {p : Piece} (hp : p ∈ d.pieces) : p.Legible := by
  have hs := d.seconds_lt
  have hn : d.nanos < UInt64.size := Nat.lt_trans d.nanos_lt (by decide)
  have hplural : ∀ n name, plural n name = name ∨ plural n name = name ++ "s" := by
    intro n name
    by_cases h : n > 1 <;> simp [plural, h]
  simp only [pieces, TimeUnit.seconds, List.mem_cons, List.not_mem_nil, or_false] at hp
  -- Years, months and days are words with two forms; the other names are always the same.
  rcases hp with rfl | rfl | rfl | rfl | rfl | rfl | rfl | rfl | rfl
  · rcases hplural (d.seconds / 31557600) "year" with h | h <;> rw [h]
    · exact legible_of_name (by omega) (by decide)
    · exact legible_of_name (by omega) (by decide)
  · rcases hplural (d.seconds % 31557600 / 2630016) "month" with h | h <;> rw [h]
    · exact legible_of_name (by omega) (by decide)
    · exact legible_of_name (by omega) (by decide)
  · rcases hplural (d.seconds % 31557600 % 2630016 / 86400) "day" with h | h <;> rw [h]
    · exact legible_of_name (by omega) (by decide)
    · exact legible_of_name (by omega) (by decide)
  all_goals exact legible_of_name (by omega) (by decide)

/-- A number is what is left of it after dividing by some numbers in turn, and the quotients. -/
theorem quotients_add_rest (n year month day : Nat) :
    n / year * year + (n % year / month * month + (n % year % month / day * day +
      (n % year % month % day / 3600 * 3600 + (n % year % month % day % 3600 / 60 * 60 +
        n % year % month % day % 60)))) = n := by
  have hday : ∀ rest : Nat, rest / 3600 * 3600 + (rest % 3600 / 60 * 60 + rest % 60) = rest := by
    omega
  rw [hday, Nat.div_add_mod', Nat.div_add_mod', Nat.div_add_mod']

/-- The sum of the amounts of a length. -/
theorem sumIn_pieces (size : TimeUnit → Nat) (d : Duration) :
    let year := TimeUnit.year.seconds
    let month := TimeUnit.month.seconds
    let day := TimeUnit.day.seconds
    let afterDays := d.seconds % year % month % day
    sumIn size d.pieces = d.seconds / year * size .year +
      (d.seconds % year / month * size .month + (d.seconds % year % month / day * size .day +
        (afterDays / 3600 * size .hour + (afterDays % 3600 / 60 * size .minute +
          (afterDays % 60 * size .second + (d.nanos / 1000000 * size .millisecond +
            (d.nanos / 1000 % 1000 * size .microsecond + d.nanos % 1000 * size .nanosecond))))))) :=
  rfl

/-- The amounts of a length are its seconds. -/
theorem sumIn_seconds_pieces (d : Duration) : sumIn TimeUnit.seconds d.pieces = d.seconds := by
  rw [sumIn_pieces]
  generalize TimeUnit.year.seconds = year
  generalize TimeUnit.month.seconds = month
  generalize TimeUnit.day.seconds = day
  simp only [TimeUnit.seconds, Nat.mul_one, Nat.mul_zero, Nat.add_zero]
  exact quotients_add_rest d.seconds year month day

/-- The amounts of a length are its nanoseconds. -/
theorem sumIn_nanos_pieces (d : Duration) : sumIn TimeUnit.inNanos d.pieces = d.nanos := by
  rw [sumIn_pieces]
  generalize TimeUnit.year.seconds = year
  generalize TimeUnit.month.seconds = month
  generalize TimeUnit.day.seconds = day
  simp only [TimeUnit.inNanos, TimeUnit.nanos?, Option.getD_none, Option.getD_some, Nat.mul_zero,
    Nat.mul_one, Nat.zero_add]
  omega

/-- The amounts that are written add up to the length. -/
theorem addPieces?_pieces (d : Duration) :
    zero.addPieces? (d.pieces.filter (·.count ≠ 0)) = some d := by
  have hs : zero.seconds + sumIn TimeUnit.seconds (d.pieces.filter (·.count ≠ 0)) = d.seconds := by
    rw [sumIn_filter, sumIn_seconds_pieces]
    exact Nat.zero_add _
  have hn : zero.nanos + sumIn TimeUnit.inNanos (d.pieces.filter (·.count ≠ 0)) = d.nanos := by
    rw [sumIn_filter, sumIn_nanos_pieces]
    exact Nat.zero_add _
  exact (addPieces?_eq (hs ▸ d.seconds_lt) (hn ▸ d.nanos_lt)).trans (congrArg some (ext hs hn))

/-- A length of time that is written as text is read back as it was. -/
theorem ofText?_render (d : Duration) : ofText? d.render = some d := by
  have hsum := d.addPieces?_pieces
  have hlegible : ∀ p ∈ d.pieces.filter (·.count ≠ 0), p.Legible := fun p hp =>
    legible_of_mem_pieces (List.mem_filter.1 hp).1
  rw [render]
  split_ifs with hzero
  · -- No time at all is written as an amount of nothing.
    have hd : d = zero := ext (by simp_all [zero]) (by simp_all [zero])
    have hp : Piece.Legible ⟨0, .second, "s"⟩ := legible_of_name (by decide) (by decide)
    rw [hd]
    exact ofText?_of_read (readAmounts (List.forall_mem_singleton.2 hp) none)
  · rw [amounts_eq]
    cases hps : d.pieces.filter (·.count ≠ 0) with
    | nil =>
      -- Nothing is written of no time only.
      rw [hps] at hsum
      obtain rfl : zero = d := Option.some.inj hsum
      exact absurd rfl hzero
    | cons p ps =>
      rw [hps] at hsum hlegible
      exact ofText?_of_read ((readAmounts hlegible none).trans hsum)

end Switchboard.Duration
