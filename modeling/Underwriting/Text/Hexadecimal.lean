/-!
# Hexadecimal digits

The sixteen digits and their values. They are written small and read in either case.
-/

namespace Underwriting.Hexadecimal

/-- The digit of a value below sixteen. -/
def digit (value : Nat) : Char := Char.ofNat (if value < 10 then 48 + value else 87 + value)

/-- The value of a digit. -/
def value? (character : Char) : Option Nat :=
  if '0' ≤ character ∧ character ≤ '9' then some (character.toNat - 48)
  else if 'a' ≤ character ∧ character ≤ 'f' then some (character.toNat - 87)
  else if 'A' ≤ character ∧ character ≤ 'F' then some (character.toNat - 55)
  else none

/-- The digits of a number in front of `tail`, without leading zeros. -/
def digitsBefore (number : Nat) (tail : List Char) : List Char :=
  if number < 16 then digit number :: tail
  else digitsBefore (number / 16) (digit (number % 16) :: tail)
termination_by number
decreasing_by omega

/-- The digits of a number, the most significant first. -/
def digits (number : Nat) : List Char := digitsBefore number []

/-- The number that digits stand for; nothing if a character is no digit. -/
def number? (characters : List Char) : Option Nat :=
  characters.foldl
    (fun number? character => match number?, value? character with
      | some number, some value => some (16 * number + value)
      | _, _ => none)
    (some 0)

end Underwriting.Hexadecimal
