/-!
# Decimals and doubles

A decimal is read as the double nearest to it. One whose size is far beyond that of any double is not
computed: it is too large to be held, or it is zero.

A double stands for all the reals that round to it. Among the decimals in that interval one has the
fewest digits, or a few do; `Decimal.shortest` finds the one nearest to the double, and with its
digits the double is written. A grid of decimals with `n` digits meets the interval only if one of the
double's two neighbours on the grid is in it, so that two tests for each number of digits are enough.
All arithmetic is exact.

Whether the decimal point stands where it belongs or an exponent is written instead is a matter of
layout. A whole number always shows a point, so that it cannot be taken for an integer.
-/

namespace Switchboard

/-- A positive decimal: digits times a power of ten. -/
structure Decimal where
  /-- The digits, as a number that does not end in zero. -/
  digits : Nat
  /-- The power of ten. -/
  exponent : Int
  deriving DecidableEq

namespace Decimal

/-! ## The double nearest to a decimal -/

/-- The double nearest to `digits * 10 ^ exponent`, if that is not beyond the largest. -/
def nearest? (digits : Nat) (exponent : Int) : Option Float :=
  let size := (toString digits).length + exponent
  if digits = 0 || size < -400 then some 0.0
  else if size > 400 then none
  else
    let x :=
      if 0 ≤ exponent then Float.ofScientific digits false exponent.toNat
      else Float.ofScientific digits true (-exponent).toNat
    if x.isInf then none else some x

/-! ## The shortest decimal of a double -/

/-- A number without its zeros at the end, of which at most `fuel` are taken, and how many those
were. -/
def stripZeros : Nat → Nat → Nat × Nat
  | 0, n => (n, 0)
  | fuel + 1, n =>
    if n % 10 = 0 && n ≠ 0 then
      let (m, zeros) := stripZeros fuel (n / 10)
      (m, zeros + 1)
    else (n, 0)

/-- The least power of ten above `num / den`, looked for from a power upwards. -/
def magnitude (num den : Nat) : Nat → Int → Int
  | 0, p => p
  | fuel + 1, p =>
    if num * Nat.pow 10 (-p).toNat < Nat.pow 10 p.toNat * den then p else magnitude num den fuel (p + 1)

/-- The nearest decimal with `n` digits that rounds to a double, if there is one. The double is
`mid / den`, below `10 ^ p`; what rounds to it lies between `lo / den` and `hi / den`, with the ends
if `closed`. -/
def onGrid? (lo mid hi den : Nat) (closed : Bool) (p : Int) (n : Nat) : Option Decimal :=
  let k := p - n
  let up := Nat.pow 10 k.toNat
  let down := Nat.pow 10 (-k).toNat
  -- The grid points next to the double are `below` and `below + 1`, in units of `10 ^ k`.
  let below := mid * down / (den * up)
  let rounds (c : Nat) : Bool :=
    let x := c * up * den
    if closed then lo * down ≤ x && x ≤ hi * down else lo * down < x && x < hi * down
  let toBelow := mid * down - below * up * den
  let toAbove := (below + 1) * up * den - mid * down
  let best :=
    if rounds below && rounds (below + 1) then
      if toBelow < toAbove || (toBelow == toAbove && below % 2 == 0) then some below
      else some (below + 1)
    else if rounds below then some below
    else if rounds (below + 1) then some (below + 1)
    else none
  best.map fun c =>
    let (digits, zeros) := stripZeros 20 c
    ⟨digits, k + zeros⟩

/-- The nearest of the shortest decimals that round to the double `m * 2 ^ q`, where `narrow` says
that the next double below is only half as far away as the next one above. -/
def shortest (m : Nat) (q : Int) (narrow : Bool) : Decimal :=
  -- In quarters of the last place the double is `4 * m`, so both ends are whole numbers.
  let scale := Nat.pow 2 (q - 2).toNat
  let den := Nat.pow 2 (2 - q).toNat
  let mid := 4 * m * scale
  let lo := (4 * m - if narrow then 1 else 2) * scale
  let hi := (4 * m + 2) * scale
  let p := magnitude mid den 700 (-330)
  let found := (List.range 17).findSome? fun i => onGrid? lo mid hi den (m % 2 == 0) p (i + 1)
  found.getD ⟨m, 0⟩

/-- The shortest decimal of a double that is finite and not zero, without its sign. -/
def ofFloat (x : Float) : Decimal :=
  let bits := x.toBits.toNat % Nat.pow 2 63
  let exponent : Nat := bits / Nat.pow 2 52
  let fraction : Nat := bits % Nat.pow 2 52
  if exponent = 0 then shortest fraction (-1074) false
  else shortest (Nat.pow 2 52 + fraction) (Int.ofNat exponent - 1075) (fraction == 0 && exponent > 1)

/-! ## How a double is written -/

/-- When a double is written without an exponent. -/
structure Layout where
  /-- The most digits before the point, if there is a limit. -/
  wholeDigits : Option Nat
  /-- The most zeros between the point and the first digit, if there is a limit. -/
  leadingZeros : Option Nat

/-- Always without an exponent. -/
def Layout.plain : Layout := ⟨none, none⟩

/-- With an exponent for numbers of more than sixteen whole digits, and for those that begin with
more than four zeros after the point. -/
def Layout.compact : Layout := ⟨some 16, some 4⟩

/-- The text of a decimal. -/
def render (layout : Layout) (d : Decimal) : String :=
  let digits := (toString d.digits).toList
  let point := d.exponent + digits.length
  let zeros (n : Int) : List Char := List.replicate n.toNat '0'
  let plain :=
    if point ≤ 0 then layout.leadingZeros.all fun n => -point ≤ n
    else layout.wholeDigits.all fun n => point ≤ n
  let text :=
    if plain then
      if 0 ≤ d.exponent then digits ++ zeros d.exponent ++ ['.', '0']
      else if 0 < point then digits.take point.toNat ++ '.' :: digits.drop point.toNat
      else ['0', '.'] ++ zeros (-point) ++ digits
    else
      let exponent := (toString (point - 1)).toList
      match digits with
      | [c] => c :: 'e' :: exponent
      | cs => cs.take 1 ++ '.' :: cs.drop 1 ++ 'e' :: exponent
  String.ofList text

/-- The text of a double. -/
def renderFloat (layout : Layout) (x : Float) : String :=
  if x.isNaN then "NaN"
  else
    let sign := if x.toBits ≥ 0x8000000000000000 then "-" else ""
    let size :=
      if x.isInf then "inf"
      else if x == 0 then "0.0"
      else render layout (ofFloat x)
    sign ++ size

end Decimal

end Switchboard
