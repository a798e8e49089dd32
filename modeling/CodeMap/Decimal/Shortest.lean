/-
The fewest decimal digits that identify a binary floating point number, and their notation.

The reals that round to a number form an interval, its ends included when the mantissa is even.
The digits are those of the coarsest decimal grid with a point in the interval; of two such points
the nearer one. A number is written positionally from 0.0001 up to 16 digits before the point, and
otherwise with a signed exponent of at least two digits.
-/

import CodeMap.Decimal.Binary64

namespace CodeMap.Decimal

/-- The digits of a decimal number and the place of its point: `0.d₁d₂…` times ten to the `point`. -/
structure Digits where
  digits : Nat
  point : Int
deriving DecidableEq, Repr

/-- A number with the interval of reals that round to it, all four times their value over one
denominator. -/
structure Interval where
  value : Nat
  low : Nat
  high : Nat
  den : Nat
  closed : Bool

/-- The interval of the number `mantissa` times two to the `exponent`. -/
def Interval.of (mantissa : Nat) (exponent : Int) : Interval :=
  let up := if 0 ≤ exponent then Nat.pow 2 exponent.toNat else 1
  let down := if 0 ≤ exponent then 1 else Nat.pow 2 (-exponent).toNat
  let below := if mantissa = Nat.pow 2 52 && Binary64.leastExponent < exponent then 1 else 2
  { value := 4 * mantissa * up
    low := (4 * mantissa - below) * up
    high := (4 * mantissa + 2) * up
    den := 4 * down
    closed := mantissa % 2 = 0 }

/-- The decimal `count` times `num / den` lies in the interval. -/
def Interval.holds (interval : Interval) (count num den : Nat) : Bool :=
  let here := count * num * interval.den
  if interval.closed then interval.low * den ≤ here && here ≤ interval.high * den
  else interval.low * den < here && here < interval.high * den

/-- The power of ten above the value: the value is at least a tenth of it and less than it. -/
def Interval.point (interval : Interval) : Int :=
  (Binary64.digitCount (interval.value * Nat.pow 10 400 / interval.den) : Int) - 400

/-- The nearest point in the interval on the grid with `places` digits, as a multiple of a power of
ten. -/
def Interval.onGrid? (interval : Interval) (places : Nat) : Option (Nat × Int) :=
  let scale := interval.point - places
  let num := if 0 ≤ scale then Nat.pow 10 scale.toNat else 1
  let den := if 0 ≤ scale then 1 else Nat.pow 10 (-scale).toNat
  let low := interval.value * den / (interval.den * num)
  let lowIn := interval.holds low num den
  let highIn := interval.holds (low + 1) num den
  let nearerLow := 2 * interval.value * den ≤ (2 * low + 1) * num * interval.den
  if lowIn && (nearerLow || !highIn) then some (low, scale)
  else if highIn then some (low + 1, scale)
  else none

/-- Moves the zeros at the end of the digits into the scale. -/
def stripZeros : Nat → Nat → Int → Nat × Int
  | 0, digits, scale => (digits, scale)
  | fuel + 1, digits, scale =>
    if digits % 10 = 0 && digits ≠ 0 then stripZeros fuel (digits / 10) (scale + 1)
    else (digits, scale)

/-- The fewest digits of a positive number. -/
def shortest (mantissa : Nat) (exponent : Int) : Digits :=
  let interval := Interval.of mantissa exponent
  let found := (List.range 17).findSome? fun n => interval.onGrid? (n + 1)
  let (digits, scale) := found.getD (mantissa, exponent)
  let (digits, scale) := stripZeros 20 digits scale
  ⟨digits, scale + Binary64.digitCount digits⟩

/-- Digits with a point after the place `point`; `whole` is put after a whole number. -/
def positional (digits : List Char) (point : Int) (whole : String) : String :=
  if point ≤ 0 then "0." ++ String.ofList (List.replicate (-point).toNat '0' ++ digits)
  else if digits.length ≤ point.toNat then
    String.ofList (digits ++ List.replicate (point.toNat - digits.length) '0') ++ whole
  else
    String.ofList (digits.take point.toNat) ++ "." ++ String.ofList (digits.drop point.toNat)

/-- Digits with an exponent of ten. -/
def scientific (digits : List Char) (point : Int) : String :=
  let exponent := point - 1
  let power := Nat.toDigits 10 exponent.natAbs
  let fraction := if digits.length ≤ 1 then "" else "." ++ String.ofList (digits.drop 1)
  String.ofList (digits.take 1) ++ fraction ++ "e" ++ (if exponent < 0 then "-" else "+") ++
    String.ofList (List.replicate (2 - power.length) '0' ++ power)

/-- A number in its shortest notation; `whole` is put after a whole number. -/
def render (whole : String) : Binary64 → String
  | .infinite => "inf"
  | .finite mantissa exponent =>
    if mantissa = 0 then "0" ++ whole
    else
      let found := shortest mantissa exponent
      let digits := Nat.toDigits 10 found.digits
      if -4 < found.point && found.point ≤ 16 then positional digits found.point whole
      else scientific digits found.point

end CodeMap.Decimal
