/-!
# The shortest decimal text of a double

A double-precision number stands for all reals that round to it.  Its shortest decimal form has as
few significant digits as a decimal in that interval can have, and of the decimals with so few
digits it is the one nearest to the number.

The number is decoded into `m · 2^e` and everything after that is arithmetic on natural numbers.
For one digit, two digits and so on, the two neighbours of the number on the grid of decimals with
that many digits are tried; if any decimal on the grid lies in the interval, one of these two does.
-/

namespace Homoiconic.Number

/-- A positive number `mantissa · 2^exponent`, as decoded from a double.  The interval of reals that
round to it reaches half a unit in the last place up and, unless the number starts a new power of
two, half a unit down. -/
structure Decoded where
  mantissa : Nat
  exponent : Int
  /-- Whether the double below is only half as far away as the one above. -/
  narrow : Bool

/-- The magnitude of a finite double. -/
def decode (x : Float) : Decoded :=
  let bits : Nat := x.toBits.toNat
  let fraction : Nat := bits % Nat.pow 2 52
  let biased : Nat := bits / Nat.pow 2 52 % Nat.pow 2 11
  if biased = 0 then ⟨fraction, -1074, false⟩
  else ⟨fraction + Nat.pow 2 52, (biased : Int) - 1075, fraction == 0 && 1 < biased⟩

/-- A power of two or ten as a fraction, which brings its exponent to one side. -/
def powerFraction (base : Nat) (exponent : Int) : Nat × Nat :=
  if 0 ≤ exponent then (Nat.pow base exponent.toNat, 1) else (1, Nat.pow base (-exponent).toNat)

/-- The number of decimal digits. -/
def digitCount (n : Nat) : Nat := (Nat.toDigits 10 n).length

/-- The exponent `k` with `10^k ≤ num / den < 10^(k+1)`, for a positive fraction. -/
def decimalExponent (num den : Nat) : Int :=
  if den ≤ num then (digitCount (num / den) : Int) - 1
  else
    let k := digitCount (den / num)
    if den ≤ num * Nat.pow 10 (k - 1) then -((k : Int) - 1) else -(k : Int)

/-- Significant digits, and the power of ten that the first of them counts. -/
structure Scientific where
  digits : List Char
  exponent : Int

/-- The candidates with a given number of digits, as multiples of the grid's step: the neighbours of
the number that lie in the interval, the nearer one if both do. -/
def onGrid? (d : Decoded) (leading : Int) (count : Nat) : Option (Nat × Int) :=
  -- a unit is a quarter of the last place, so that the ends of the interval are whole
  let (unitNum, unitDen) := powerFraction 2 (d.exponent - 2)
  let scale := leading - (count : Int) + 1
  let (stepNum, stepDen) := powerFraction 10 scale
  -- multiples of the step and of the unit over one denominator
  let step := stepNum * unitDen
  let unit := unitNum * stepDen
  let value := 4 * d.mantissa * unit
  let low := (4 * d.mantissa - if d.narrow then 1 else 2) * unit
  let high := (4 * d.mantissa + 2) * unit
  let inside (x : Nat) : Bool :=
    if d.mantissa % 2 = 0 then low ≤ x && x ≤ high else low < x && x < high
  let q := value / step
  let below := q * step
  let above := (q + 1) * step
  match inside below, inside above with
  | true, true =>
    let down := value - below
    let up := above - value
    if down < up || (down = up && q % 2 = 0) then some (q, scale) else some (q + 1, scale)
  | true, false => some (q, scale)
  | false, true => some (q + 1, scale)
  | false, false => none

/-- Leave out trailing zeros. -/
def trimZeros (digits : List Char) : List Char := (digits.reverse.dropWhile (· = '0')).reverse

/-- The shortest digits of a positive finite double.  Seventeen digits always suffice. -/
def shortest (x : Float) : Scientific :=
  let d := decode x
  let (num, den) := powerFraction 2 d.exponent
  let leading := decimalExponent (d.mantissa * num) den
  match (List.range 17).findSome? fun n => onGrid? d leading (n + 1) with
  | some (q, scale) =>
    let digits := Nat.toDigits 10 q
    ⟨trimZeros digits, scale + digits.length - 1⟩
  | none => ⟨[], 0⟩

/-- Digits in plain or scientific notation.  Plain notation has a fractional part always, and is
used while the first digit counts between `10^-5` and `10^15`. -/
def Scientific.render (s : Scientific) : String :=
  let count : Int := s.digits.length
  if s.exponent < -5 ∨ 15 < s.exponent then
    let point := if s.digits.length = 1 then [] else ['.']
    let sign := if s.exponent < 0 then "-" else "+"
    String.ofList (s.digits.take 1 ++ point ++ s.digits.drop 1) ++ "e" ++ sign
      ++ toString s.exponent.natAbs
  else if s.exponent < 0 then
    "0." ++ String.ofList (List.replicate (-s.exponent - 1).toNat '0' ++ s.digits)
  else if count ≤ s.exponent + 1 then
    String.ofList (s.digits ++ List.replicate (s.exponent + 1 - count).toNat '0') ++ ".0"
  else
    let whole := (s.exponent + 1).toNat
    String.ofList (s.digits.take whole) ++ "." ++ String.ofList (s.digits.drop whole)

/-- The text of a finite double.  Zero keeps its sign. -/
def renderDouble (x : Float) : String :=
  (if x.toBits.toNat / Nat.pow 2 63 = 1 then "-" else "")
    ++ (if x == 0 then "0.0" else (shortest x).render)

end Homoiconic.Number
