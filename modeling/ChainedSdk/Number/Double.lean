/-
# Decimals and the doubles nearest to them

A number written with a point or an exponent is kept as it is written, a
`Decimal`. What it means is the double nearest to it: a significand of at most
53 bits times a power of two not below 2^-1074, ties to the even significand.
The rounding is exact arithmetic on natural numbers.

Key definitions: `Decimal`, `Double`, `Decimal.toDouble`, `Double.compareInt`.
-/
namespace ChainedSdk

/-- The number `± digits * 10^exponent`. -/
structure Decimal where
  negative : Bool
  digits : Nat
  exponent : Int
deriving DecidableEq, Repr

/-- A double: a finite one is `± significand * 2^exponent`. -/
inductive Double where
  | finite (negative : Bool) (significand : Nat) (exponent : Int)
  | infinite (negative : Bool)
deriving DecidableEq, Repr

namespace Double

/-- `num / den` rounded to a natural number, ties to even. -/
def roundDiv (num den : Nat) : Nat :=
  let quotient := num / den
  let twice := 2 * (num % den)
  if twice < den then quotient
  else if den < twice then quotient + 1
  else quotient + quotient % 2

/-- The numerator and denominator of `num / den * 2^e`. -/
def scaleTwo (num den : Nat) (e : Int) : Nat × Nat :=
  if 0 ≤ e then (num * Nat.pow 2 e.toNat, den) else (num, den * Nat.pow 2 (-e).toNat)

/-- The largest `e` with `2^e ≤ num / den`, for positive `num` and `den`. -/
def floorLog (num den : Nat) : Int :=
  let guess : Int := (Nat.log2 num : Int) - (Nat.log2 den : Int)
  let scaled := scaleTwo num den (-guess)
  if scaled.2 ≤ scaled.1 then guess else guess - 1

/-- The double nearest to `± num / den`. -/
def ofFraction (negative : Bool) (num den : Nat) : Double :=
  if num = 0 then .finite negative 0 0
  else
    let exponent := max (floorLog num den - 52) (-1074)
    let scaled := scaleTwo num den (-exponent)
    let significand := roundDiv scaled.1 scaled.2
    let carried : Nat × Int :=
      if significand = Nat.pow 2 53 then (Nat.pow 2 52, exponent + 1) else (significand, exponent)
    if 971 < carried.2 then .infinite negative else .finite negative carried.1 carried.2

/-- The order of a double and a whole number. -/
def compareInt (d : Double) (n : Int) : Ordering :=
  match d with
  | .infinite true => .lt
  | .infinite false => .gt
  | .finite negative significand exponent =>
    let signed : Int := if negative then -significand else significand
    if 0 ≤ exponent then compare (signed * (Nat.pow 2 exponent.toNat : Nat)) n
    else compare signed (n * (Nat.pow 2 (-exponent).toNat : Nat))

/-- Two doubles are the same number; the two zeros are. -/
def sameNumber : Double → Double → Bool
  | .infinite a, .infinite b => a == b
  | .finite _ 0 _, .finite _ 0 _ => true
  | .finite a m e, .finite b n f => a == b && m == n && e == f
  | _, _ => false

end Double

namespace Decimal

/-- The number of decimal digits of `n`. -/
def width (n : Nat) : Nat :=
  (Nat.toDigits 10 n).length

/-- The double nearest to the decimal. Decimals beyond every double and below
half the smallest one are told by their digits alone. -/
def toDouble (d : Decimal) : Double :=
  let top : Int := d.exponent + (width d.digits : Int)
  if d.digits = 0 || top < -400 then .finite d.negative 0 0
  else if 400 < top then .infinite d.negative
  else if 0 ≤ d.exponent then .ofFraction d.negative (d.digits * Nat.pow 10 d.exponent.toNat) 1
  else .ofFraction d.negative d.digits (Nat.pow 10 (-d.exponent).toNat)

end Decimal
end ChainedSdk
