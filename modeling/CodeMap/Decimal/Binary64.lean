/-
Non-negative numbers of binary floating point with 53 significant bits.

`Binary64.ofDecimal digits scale` is the number nearest to `digits` times the power of ten `scale`,
a tie going to the even neighbour. The arithmetic is exact: no step rounds but the last one.
-/

namespace CodeMap

/-- The value `mantissa` times two to the `exponent`, or a number too large to be held. -/
inductive Binary64 where
  | finite (mantissa : Nat) (exponent : Int)
  | infinite
deriving DecidableEq, Repr

namespace Binary64

/-- The least exponent: below it the mantissa loses bits. -/
def leastExponent : Int := -1074

/-- The largest exponent. -/
def largestExponent : Int := 971

/-- The integer nearest to a quotient, a tie going to the even one. -/
def roundQuotient (num den : Nat) : Nat :=
  let floor := num / den
  let twice := 2 * (num % den)
  if twice < den then floor
  else if den < twice then floor + 1
  else if floor % 2 = 0 then floor else floor + 1

/-- `num / den` divided by two to the `exponent`, as a quotient. -/
def scaled (num den : Nat) (exponent : Int) : Nat × Nat :=
  if 0 ≤ exponent then (num, den * Nat.pow 2 exponent.toNat)
  else (num * Nat.pow 2 (-exponent).toNat, den)

/-- The exponent that leaves 53 bits before the point of `num / den`. -/
def fittingExponent (num den : Nat) : Int :=
  let guess := (Nat.log2 num : Int) - (Nat.log2 den : Int) - 52
  let (n, d) := scaled num den guess
  max leastExponent (if n / d < Nat.pow 2 52 then guess - 1 else guess)

/-- The number nearest to `num / den`. -/
def ofQuotient (num den : Nat) : Binary64 :=
  if num = 0 then .finite 0 leastExponent
  else
    let exponent := fittingExponent num den
    let (n, d) := scaled num den exponent
    let mantissa := roundQuotient n d
    let (mantissa, exponent) :=
      if mantissa = Nat.pow 2 53 then (Nat.pow 2 52, exponent + 1) else (mantissa, exponent)
    if largestExponent < exponent then .infinite else .finite mantissa exponent

/-- The number of decimal digits of `n`. -/
def digitCount (n : Nat) : Nat := (Nat.toDigits 10 n).length

/-- The number nearest to `digits` times ten to the `scale`. Beyond 400 places on either side the
answer is known without arithmetic. -/
def ofDecimal (digits : Nat) (scale : Int) : Binary64 :=
  let magnitude := (digitCount digits : Int) + scale
  if digits = 0 || magnitude < -400 then .finite 0 leastExponent
  else if 400 < magnitude then .infinite
  else if 0 ≤ scale then ofQuotient (digits * Nat.pow 10 scale.toNat) 1
  else ofQuotient digits (Nat.pow 10 (-scale).toNat)

end Binary64

end CodeMap
