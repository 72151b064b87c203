import Underwriting.Number.Binary64
import Underwriting.Text.Numeral

/-!
# Shortest decimal text of a number

A finite number is written with the fewest significant digits that read back to it, and of those
the nearest. Scaled by 10¹⁰⁷⁵, the number and the two ends of the interval that rounds to it are
whole, so the search over the decimal grids is exact. What the two written forms add, where a
point stands and what becomes of a tie, is stated with each form.
-/

namespace Underwriting

/-- A decimal fraction `coefficient · 10 ^ exponent`. -/
structure Decimal where
  coefficient : Nat
  exponent : Int
deriving DecidableEq

/-- Which of two equally near decimals is taken. -/
inductive Tie
  | upward
  | even
deriving DecidableEq

namespace Decimal

/-- The same fraction without trailing zeros in its coefficient. -/
def stripZeros (decimal : Decimal) : Decimal :=
  if decimal.coefficient ≠ 0 ∧ decimal.coefficient % 10 = 0 then
    stripZeros ⟨decimal.coefficient / 10, decimal.exponent + 1⟩
  else decimal
termination_by decimal.coefficient
decreasing_by omega

end Decimal

namespace Magnitude

/-- A position on the line of magnitudes, twice a number of units, as a multiple of 10⁻¹⁰⁷⁵. -/
def scaledPosition (twiceUnits : Nat) : Nat := twiceUnits * Nat.pow 5 1075

/-- Whether a multiple of 10⁻¹⁰⁷⁵ rounds to the magnitude. The ends of the interval, half way to
the neighbours, belong to it if the rank is even. -/
def roundsTo (magnitude : Magnitude) (position : Nat) : Bool :=
  let low := scaledPosition (unitsOfRank (magnitude.rank - 1) + magnitude.units)
  let high := scaledPosition (magnitude.units + unitsOfRank (magnitude.rank + 1))
  if magnitude.rank % 2 = 0 then low ≤ position && position ≤ high
  else low < position && position < high

/-- The neighbour on a grid of step `step` that reads back to the magnitude, the nearer of the two
if both do. -/
def neighbour? (tie : Tie) (magnitude : Magnitude) (step : Nat) : Option Nat :=
  let centre := scaledPosition (2 * magnitude.units)
  let lower := centre / step
  let upper := lower + 1
  match magnitude.roundsTo (lower * step), magnitude.roundsTo (upper * step) with
  | true, true =>
    let below := centre - lower * step
    let above := upper * step - centre
    if below < above then some lower
    else if above < below then some upper
    else match tie with
      | .upward => some upper
      | .even => if lower % 2 = 0 then some lower else some upper
  | true, false => some lower
  | false, true => some upper
  | false, false => none

/-- The first grid, from one digit up to seventeen, on which a neighbour reads back. -/
def shortestFrom (tie : Tie) (magnitude : Magnitude) (width : Nat) : List Nat → Decimal
  | [] => ⟨scaledPosition (2 * magnitude.units), -1075⟩
  | count :: more =>
    match magnitude.neighbour? tie (Nat.pow 10 (width - count)) with
    | some coefficient => ⟨coefficient, (width - count : Nat) - (1075 : Int)⟩
    | none => shortestFrom tie magnitude width more

/-- The decimal with the fewest digits that reads back to the magnitude, nearest to it. -/
def shortest (tie : Tie) (magnitude : Magnitude) : Decimal :=
  if magnitude.rank = 0 then ⟨0, 0⟩
  else
    let width := Numeral.digitCount (scaledPosition (2 * magnitude.units))
    (shortestFrom tie magnitude width (List.range' 1 17)).stripZeros

end Magnitude

namespace Decimal

/-- The decimal without an exponent: zeros fill the places up to the point, and a point stands
only before digits. -/
def plain (decimal : Decimal) : List Char :=
  let digits := Numeral.digits decimal.coefficient
  if decimal.exponent ≥ 0 then digits ++ List.replicate decimal.exponent.toNat '0'
  else
    let places := (-decimal.exponent).toNat
    if places < digits.length then
      digits.take (digits.length - places) ++ '.' :: digits.drop (digits.length - places)
    else '0' :: '.' :: List.replicate (places - digits.length) '0' ++ digits

/-- The decimal with one digit before the point and a signed exponent of ten. -/
def scientific (decimal : Decimal) : List Char :=
  let digits := Numeral.digits decimal.coefficient
  let leading := decimal.exponent + (digits.length - 1 : Nat)
  let sign := if leading < 0 then '-' else '+'
  let fraction := match digits.drop 1 with
    | [] => []
    | more => '.' :: more
  digits.take 1 ++ fraction ++ 'e' :: sign :: Numeral.digits leading.natAbs

/-- The decimal with a point in every case: plain from 10⁻⁵ and below 10¹⁶, else scientific. -/
def pointed (decimal : Decimal) : List Char :=
  let leading := decimal.exponent + ((Numeral.digits decimal.coefficient).length - 1 : Nat)
  if leading < -5 ∨ 16 ≤ leading then decimal.scientific
  else if decimal.exponent ≥ 0 then decimal.plain ++ ['.', '0']
  else decimal.plain

end Decimal

namespace Binary64

/-- A sign in front of digits. -/
def signed (negative : Bool) (digits : List Char) : List Char :=
  if negative then '-' :: digits else digits

/-- The text of a number in messages and reports: shortest digits, a tie going upward, never an
exponent. -/
def text : Binary64 → String
  | .finite negative magnitude =>
    String.ofList (signed negative (magnitude.shortest .upward).plain)
  | .infinite negative => String.ofList (signed negative ['i', 'n', 'f'])
  | .nan _ _ => "NaN"

/-- The text of a finite number inside a JSON document: shortest digits, a tie going to the even
digit, with a point or an exponent so that it stays apart from the integers. -/
def jsonText? : Binary64 → Option String
  | .finite negative magnitude =>
    some (String.ofList (signed negative (magnitude.shortest .even).pointed))
  | _ => none

/-- The text of a number with exactly one decimal place, the exact half going to the even digit. -/
def oneDecimal : Binary64 → String
  | .finite negative magnitude =>
    let tenths := Magnitude.roundHalfEven (magnitude.units * 10) Magnitude.unitsPerOne
    String.ofList
      (signed negative (Numeral.digits (tenths / 10) ++ ['.', Numeral.digitChar (tenths % 10)]))
  | .infinite negative => String.ofList (signed negative ['i', 'n', 'f'])
  | .nan _ _ => "NaN"

end Binary64

end Underwriting
