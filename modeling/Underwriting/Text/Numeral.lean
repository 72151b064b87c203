/-!
# Decimal numerals

Whole numbers as decimal digits: how they are written, and the one form in which settings, path
indices and identifiers are read, an optional plus sign and one or more digits within a limit.
-/

namespace Underwriting.Numeral

/-- The character of a digit. -/
def digitChar (digit : Nat) : Char := Char.ofNat (48 + digit)

/-- The value of a decimal digit. -/
def digitValue? (character : Char) : Option Nat :=
  if '0' ≤ character ∧ character ≤ '9' then some (character.toNat - 48) else none

/-- A decimal digit. -/
def isDigit (character : Char) : Bool := '0' ≤ character && character ≤ '9'

/-- The decimal digits of a whole number, the most significant first, in front of `tail`. -/
def digitsBefore (whole : Nat) (tail : List Char) : List Char :=
  if whole < 10 then digitChar whole :: tail
  else digitsBefore (whole / 10) (digitChar (whole % 10) :: tail)
termination_by whole
decreasing_by omega

/-- The decimal digits of a whole number, the most significant first. -/
def digits (whole : Nat) : List Char := digitsBefore whole []

/-- How many decimal digits a whole number has. -/
def digitCount (whole : Nat) : Nat :=
  if whole < 10 then 1 else digitCount (whole / 10) + 1
termination_by whole
decreasing_by omega

/-- A whole number in decimal. -/
def write (whole : Nat) : String := String.ofList (digits whole)

/-- An integer in decimal; only a negative one has a sign. -/
def writeInt : Int → String
  | .ofNat whole => write whole
  | .negSucc whole => String.ofList ('-' :: digits (whole + 1))

/-- The value of a digit string, most significant digit first; nothing if a character is no
digit. -/
def value? (characters : List Char) : Option Nat :=
  characters.foldl
    (fun value? character => match value?, digitValue? character with
      | some value, some digit => some (10 * value + digit)
      | _, _ => none)
    (some 0)

/-- An optional plus sign and one or more digits, of value at most `limit`. -/
def read? (limit : Nat) (characters : List Char) : Option Nat :=
  let body := match characters with
    | '+' :: rest => rest
    | all => all
  if body.isEmpty then none
  else match value? body with
    | some value => if value ≤ limit then some value else none
    | none => none

end Underwriting.Numeral
