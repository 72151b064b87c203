/-!
# Binary64 numbers

Amounts, scores and limits are double precision numbers. A finite number is a sign and a *rank*,
the whole number below the sign bit of its encoding. Ranks order the magnitudes, and a rank stands
for a whole number of *units* of 2⁻¹⁰⁷⁴, so every sum, product and quotient is an exact fraction
of units that is rounded once, to the nearest magnitude and at a half to the even one. What is not
a number has a sign and a payload too, and the total order alone tells such apart by them.
-/

namespace Underwriting

/-- Ranks from here on no longer stand for finite magnitudes. -/
def Magnitude.rankLimit : Nat := 0x7FF0000000000000

/-- A finite magnitude, given by its place in the ascending list of all of them. -/
structure Magnitude where
  rank : Nat
  rank_lt : rank < Magnitude.rankLimit
deriving DecidableEq

namespace Magnitude

/-- The number of magnitudes from one power of two up to the next, 2⁵². -/
def binadeSize : Nat := 4503599627370496

/-- The number of units of 2⁻¹⁰⁷⁴ that a rank stands for. -/
def unitsOfRank (rank : Nat) : Nat :=
  if rank < binadeSize then rank
  else (binadeSize + rank % binadeSize) * Nat.pow 2 (rank / binadeSize - 1)

/-- The magnitude in units of 2⁻¹⁰⁷⁴. -/
def units (magnitude : Magnitude) : Nat := unitsOfRank magnitude.rank

/-- One in units of 2⁻¹⁰⁷⁴. -/
def unitsPerOne : Nat := Nat.pow 2 1074

/-- The magnitude zero. -/
def zero : Magnitude := ⟨0, by decide⟩

/-- The whole number nearest to a fraction; a half goes to the even neighbour. -/
def roundHalfEven (numerator denominator : Nat) : Nat :=
  let whole := numerator / denominator
  let twice := 2 * (numerator % denominator)
  if twice < denominator then whole
  else if denominator < twice then whole + 1
  else whole + whole % 2

/-- The rank whose magnitude is nearest to a fraction of units; it may reach `rankLimit`. Below
2⁵³ units the grid is the units themselves, above it each further binary digit doubles the step. -/
def nearestRank (numerator denominator : Nat) : Nat :=
  let shift := (numerator / denominator).log2 - 52
  roundHalfEven numerator (denominator * Nat.pow 2 shift) + shift * binadeSize

end Magnitude

/-- Payloads of non-numbers are below this, 2⁵¹. -/
def NanCode.payloadLimit : Nat := 2251799813685248

/-- What tells non-numbers of one sign apart: whether it is a quiet or a signalling one, and its
payload. A signalling one has a payload, or it would be encoded as infinity is. -/
structure NanCode where
  quiet : Bool
  payload : Nat
  payload_lt : payload < NanCode.payloadLimit
  payload_pos : quiet = false → 0 < payload
deriving DecidableEq

namespace NanCode

/-- The quiet non-number without a payload. -/
def plain : NanCode := ⟨true, 0, by decide, by decide⟩

/-- How far the encoding of a non-number stands behind that of infinity. The bit of a quiet one is
above its payload. -/
def fraction (code : NanCode) : Nat :=
  if code.quiet then payloadLimit + code.payload else code.payload

end NanCode

/-- A double precision number: finite with a sign, infinite with a sign, or not a number, which
has a sign all the same. -/
inductive Binary64
  | finite (negative : Bool) (magnitude : Magnitude)
  | infinite (negative : Bool)
  | nan (negative : Bool) (code : NanCode)
deriving DecidableEq

namespace Binary64

open Magnitude (unitsPerOne nearestRank)

/-- The number zero with a plus sign. -/
def zero : Binary64 := .finite false .zero

instance : Inhabited Binary64 := ⟨zero⟩

/-- The outcome of an operation that has no numeric result. The rules for doubles leave its sign
and its payload open. -/
def notANumber : Binary64 := .nan false .plain

/-- Neither infinite nor a non-number. -/
def isFinite : Binary64 → Bool
  | .finite _ _ => true
  | _ => false

/-- Finite or infinite. -/
def isNumber : Binary64 → Bool
  | .nan _ _ => false
  | _ => true

/-- The value of a finite number in units of 2⁻¹⁰⁷⁴. -/
def units? : Binary64 → Option Int
  | .finite negative magnitude => some (if negative then -magnitude.units else magnitude.units)
  | _ => none

/-- The place of a number in the numeric order, in which both zeros share one place and a
non-number has none. -/
def place? : Binary64 → Option Int
  | .finite negative magnitude => some (if negative then -magnitude.rank else magnitude.rank)
  | .infinite negative => some (if negative then -Magnitude.rankLimit else Magnitude.rankLimit)
  | .nan _ _ => none

/-- Numeric `≤`; nothing is comparable to a non-number. -/
def atMost (left right : Binary64) : Bool :=
  match left.place?, right.place? with
  | some first, some second => first ≤ second
  | _, _ => false

/-- Numeric `<`; nothing is comparable to a non-number. -/
def below (left right : Binary64) : Bool :=
  match left.place?, right.place? with
  | some first, some second => first < second
  | _, _ => false

/-- Numeric equality: the zeros are equal, and a non-number equals nothing. -/
def sameValue (left right : Binary64) : Bool :=
  match left.place?, right.place? with
  | some first, some second => first == second
  | _, _ => false

/-- How far from zero a number stands in the total order. It is its encoding without the sign
bit. -/
def height : Binary64 → Nat
  | .finite _ magnitude => magnitude.rank
  | .infinite _ => Magnitude.rankLimit
  | .nan _ code => Magnitude.rankLimit + code.fraction

/-- The sign of a number. The zeros and the non-numbers have one too. -/
def isNegative : Binary64 → Bool
  | .finite negative _ => negative
  | .infinite negative => negative
  | .nan negative _ => negative

/-- The place of a number in the total order, which puts the negative zero below the positive one,
the negative non-numbers below and the positive ones above everything else. -/
def totalPlace (number : Binary64) : Int :=
  if number.isNegative then -number.height - 1 else number.height

/-- The positive part: what lies below zero, and a non-number, becomes zero. -/
def clampAtZero (number : Binary64) : Binary64 := if zero.below number then number else zero

/-- The number nearest to a signed fraction of units; beyond the finite range it is infinite. -/
def ofUnits (negative : Bool) (numerator denominator : Nat) : Binary64 :=
  if inRange : nearestRank numerator denominator < Magnitude.rankLimit then
    .finite negative ⟨nearestRank numerator denominator, inRange⟩
  else .infinite negative

/-- The number nearest to a whole number. -/
def ofNat (whole : Nat) : Binary64 := ofUnits false (whole * unitsPerOne) 1

/-- The number nearest to an integer. -/
def ofInt (whole : Int) : Binary64 := ofUnits (whole < 0) (whole.natAbs * unitsPerOne) 1

/-- The same with the other sign. -/
def neg : Binary64 → Binary64
  | .finite negative magnitude => .finite (!negative) magnitude
  | .infinite negative => .infinite (!negative)
  | .nan negative code => .nan (!negative) code

/-- The sum, rounded once. A sum of zero is negative only if both operands are negative zeros. -/
def add (left right : Binary64) : Binary64 :=
  match left, right with
  | .nan _ _, _ => notANumber
  | _, .nan _ _ => notANumber
  | .infinite first, .infinite second => if first == second then .infinite first else notANumber
  | .infinite first, .finite _ _ => .infinite first
  | .finite _ _, .infinite second => .infinite second
  | .finite first leftSize, .finite second rightSize =>
    let signed (negative : Bool) (size : Magnitude) : Int :=
      if negative then -size.units else size.units
    let total := signed first leftSize + signed second rightSize
    if total = 0 then .finite (first && second) .zero
    else ofUnits (total < 0) total.natAbs 1

/-- The difference, rounded once. -/
def sub (left right : Binary64) : Binary64 := left.add right.neg

/-- The product, rounded once; zero times infinity is not a number. -/
def mul (left right : Binary64) : Binary64 :=
  match left, right with
  | .nan _ _, _ => notANumber
  | _, .nan _ _ => notANumber
  | .infinite first, .infinite second => .infinite (first != second)
  | .infinite first, .finite second size =>
    if size = .zero then notANumber else .infinite (first != second)
  | .finite first size, .infinite second =>
    if size = .zero then notANumber else .infinite (first != second)
  | .finite first leftSize, .finite second rightSize =>
    ofUnits (first != second) (leftSize.units * rightSize.units) unitsPerOne

/-- The quotient, rounded once; a finite number over zero is infinite, and zero over zero and
infinity over infinity are not numbers. -/
def div (left right : Binary64) : Binary64 :=
  match left, right with
  | .nan _ _, _ => notANumber
  | _, .nan _ _ => notANumber
  | .infinite _, .infinite _ => notANumber
  | .infinite first, .finite second _ => .infinite (first != second)
  | .finite first _, .infinite second => .finite (first != second) .zero
  | .finite first leftSize, .finite second rightSize =>
    if rightSize = .zero then
      if leftSize = .zero then notANumber else .infinite (first != second)
    else ofUnits (first != second) (leftSize.units * unitsPerOne) rightSize.units

instance : Neg Binary64 := ⟨neg⟩
instance : Add Binary64 := ⟨add⟩
instance : Sub Binary64 := ⟨sub⟩
instance : Mul Binary64 := ⟨mul⟩
instance : Div Binary64 := ⟨div⟩
instance (whole : Nat) : OfNat Binary64 whole := ⟨ofNat whole⟩

/-- The integer that a number is, if it is one. -/
def toInt? (number : Binary64) : Option Int :=
  match number.units? with
  | some units => if units % unitsPerOne = 0 then some (units / unitsPerOne) else none
  | none => none

/-- The number nearest to `coefficient · 10 ^ exponent`. Powers so large or small that the result
is infinite or zero whatever the coefficient's digits are settled without forming them. -/
def ofDecimal (negative : Bool) (coefficient : Nat) (exponent : Int) : Binary64 :=
  if coefficient = 0 then .finite negative .zero
  else if exponent ≥ 400 then .infinite negative
  else if exponent + (coefficient.log2 + 1) < -1200 then .finite negative .zero
  else if exponent ≥ 0 then
    ofUnits negative (coefficient * Nat.pow 10 exponent.toNat * unitsPerOne) 1
  else ofUnits negative (coefficient * unitsPerOne) (Nat.pow 10 (-exponent).toNat)

end Binary64

end Underwriting
