/-
# The shortest decimal that reads back

A double is written with the fewest digits whose decimal rounds to it; of
several decimals of that many digits it is the nearest one. The text is
positional from 10^-4 up to 10^16, with at least one digit after the point,
and has an exponent of at least two digits elsewhere.

Key definitions: `Double.readsBack`, `Double.shortest`, `Double.text`.
-/
import ChainedSdk.Number.Double

namespace ChainedSdk
namespace Double

/-- The order of `a * 10^i` and `b * 2^j`. -/
def compareScaled (a : Nat) (i : Int) (b : Nat) (j : Int) : Ordering :=
  compare (a * Nat.pow 10 i.toNat * Nat.pow 2 (-j).toNat)
    (b * Nat.pow 2 j.toNat * Nat.pow 10 (-i).toNat)

/-- The decimal `digits * 10^place` rounds to the double `significand *
2^exponent`: it lies between the points halfway to the two neighbours, these
points themselves included for an even significand. Below a power of two the
neighbour is half as far. -/
def readsBack (significand : Nat) (exponent : Int) (digits : Nat) (place : Int) : Bool :=
  let below :=
    if significand = Nat.pow 2 52 && exponent ≠ -1074 then 4 * significand - 1
    else 4 * significand - 2
  let lower := compareScaled digits place below (exponent - 2)
  let upper := compareScaled digits place (4 * significand + 2) (exponent - 2)
  (lower == .gt || (lower == .eq && significand % 2 == 0)) &&
    (upper == .lt || (upper == .eq && significand % 2 == 0))

/-- The least `k`, from a first guess on, with `significand * 2^exponent < 10^k`. -/
def magnitude (significand : Nat) (exponent : Int) : Nat → Int → Int
  | 0, k => k
  | tries + 1, k =>
    if compareScaled 1 k significand exponent == .gt then k
    else magnitude significand exponent tries (k + 1)

/-- How often `10^place` goes into `significand * 2^exponent`. -/
def countAt (significand : Nat) (exponent place : Int) : Nat :=
  (significand * Nat.pow 2 exponent.toNat * Nat.pow 10 (-place).toNat) /
    (Nat.pow 2 (-exponent).toNat * Nat.pow 10 place.toNat)

/-- The decimal on the grid of `10^place` that reads back, the nearer of the
double's two neighbours there if both do, and of two equally near ones the
even one. -/
def nearestAt (significand : Nat) (exponent place : Int) : Option Nat :=
  let low := countAt significand exponent place
  let lowReads := readsBack significand exponent low place
  let highReads := readsBack significand exponent (low + 1) place
  match lowReads, highReads with
  | false, false => none
  | true, false => some low
  | false, true => some (low + 1)
  | true, true =>
    match compareScaled (2 * low + 1) place (2 * significand) exponent with
    | .gt => some low
    | .lt => some (low + 1)
    | .eq => some (low + low % 2)

/-- The shortest decimal of `significand * 2^exponent`, as digits and the place
of the last one. -/
def shortest (significand : Nat) (exponent : Int) : Nat × Int :=
  let bits : Int := Nat.log2 significand + exponent
  let size := magnitude significand exponent 6 (bits * 30103 / 100000 - 2)
  let found := (List.range 17).findSome? fun n =>
    let place := size - (n + 1 : Nat)
    (nearestAt significand exponent place).map fun digits => (digits, place)
  found.getD (significand, 0)

/-- The exponent's text: a sign and at least two digits. -/
def exponentText (e : Int) : String :=
  let digits := toString e.natAbs
  (if e < 0 then "-" else "+") ++ (if digits.length < 2 then "0" ++ digits else digits)

/-- The text of a positive double from its digits, the last of which is not a
zero, and the number of digits before the point. -/
def layout (digits : List Char) (point : Int) : String :=
  let count := digits.length
  if -4 < point && point ≤ 16 then
    if point ≤ 0 then
      "0." ++ String.ofList (List.replicate (-point).toNat '0' ++ digits)
    else if (count : Int) ≤ point then
      String.ofList (digits ++ List.replicate (point.toNat - count) '0') ++ ".0"
    else
      String.ofList (digits.take point.toNat) ++ "." ++ String.ofList (digits.drop point.toNat)
  else
    match digits with
    | [] => "0.0"
    | [d] => String.ofList [d, 'e'] ++ exponentText (point - 1)
    | d :: rest => String.ofList (d :: '.' :: rest) ++ "e" ++ exponentText (point - 1)

/-- The text of a double. -/
def text : Double → String
  | .infinite negative => if negative then "-inf" else "inf"
  | .finite negative 0 _ => if negative then "-0.0" else "0.0"
  | .finite negative significand exponent =>
    let found := shortest significand exponent
    let digits := Nat.toDigits 10 found.1
    let trimmed := (digits.reverse.dropWhile (· = '0')).reverse
    (if negative then "-" else "") ++ layout trimmed (found.2 + digits.length)

end Double
end ChainedSdk
