import Underwriting.Number.Binary64

/-!
# Number literals

What a JSON number literal stands for. A literal without fraction and exponent that fits 64 bits is
an integer. Any other literal is a double, taken from as many leading digits as fit 64 bits: they
are rounded to a double, which is then multiplied or divided once by a rounded power of ten.
A literal that overflows on the way has no value.
-/

namespace Underwriting

/-- The value of a number literal. -/
inductive JsonNumber
  | integer (value : Int)
  | float (value : Binary64)
deriving DecidableEq

/-- The parts of a number literal, digits by their values. -/
structure NumberLiteral where
  negative : Bool
  whole : List Nat
  fraction : List Nat
  exponent? : Option Int

namespace NumberLiteral

/-- The largest integer of 64 bits. -/
def maxSignificand : Nat := UInt64.size - 1

/-- The largest power of ten that is a finite double. -/
def maxPower : Nat := 308

/-- Appends digits while the significand fits 64 bits; gives also the number of digits left out. -/
def absorb (significand : Nat) : List Nat → Nat × Nat
  | [] => (significand, 0)
  | digit :: rest =>
    if 10 * significand + digit ≤ maxSignificand then absorb (10 * significand + digit) rest
    else (significand, rest.length + 1)

/-- A double times a power of ten; nothing if the product is not finite. Small powers are divided
out in steps of the largest one. -/
def scale? (number : Binary64) (exponent : Int) : Option Binary64 :=
  if number.sameValue 0 then some number
  else if exponent > maxPower then none
  else if exponent ≥ 0 then
    let product := number * .ofDecimal false 1 exponent
    if product.isFinite then some product else none
  else if exponent ≥ -maxPower then some (number / .ofDecimal false 1 (-exponent))
  else scale? (number / .ofDecimal false 1 maxPower) (exponent + maxPower)
termination_by (-exponent).toNat
decreasing_by simp only [maxPower] at *; omega

/-- The value of a literal, or nothing if it is out of range. -/
def value? (literal : NumberLiteral) : Option JsonNumber :=
  let (whole, skipped) := absorb 0 literal.whole
  if literal.fraction.isEmpty ∧ literal.exponent?.isNone ∧ skipped = 0 ∧
      (!literal.negative ∨ (0 < whole ∧ whole ≤ UInt64.size / 2)) then
    some (.integer (if literal.negative then -whole else whole))
  else
    let (significand, unread) := absorb whole literal.fraction
    let taken := literal.fraction.length - unread
    let exponent := (skipped : Int) - taken + literal.exponent?.getD 0
    match scale? (.ofNat significand) exponent with
    | some magnitude => some (.float (if literal.negative then -magnitude else magnitude))
    | none => none

end NumberLiteral

end Underwriting
