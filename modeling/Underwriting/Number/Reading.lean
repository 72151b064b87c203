import Underwriting.Number.Binary64
import Underwriting.Text.Numeral

/-!
# Reading numbers

A number on a command line: an optional sign and then digits with at most one point among them and
perhaps a power of ten, or a word for infinity or for no number. What is read is the double nearest
to it.
-/

namespace Underwriting.Binary64

/-- An optional sign, whether it is a minus, and the text behind it. -/
def takeSign : List Char → Bool × List Char
  | '-' :: rest => (true, rest)
  | '+' :: rest => (false, rest)
  | rest => (false, rest)

/-- A power of ten behind its mark: an optional sign and digits. -/
def readPower? (text : List Char) : Option Int :=
  let (negative, digits) := takeSign text
  if digits.isEmpty then none
  else (Numeral.value? digits).map fun size => if negative then -(size : Int) else size

/-- The digits in front of a text and what follows them. -/
def takeDigits (text : List Char) : List Char × List Char :=
  (text.takeWhile Numeral.isDigit, text.dropWhile Numeral.isDigit)

/-- The digits behind a point and what follows them; none if there is no point. -/
def takeFraction : List Char → List Char × List Char
  | '.' :: rest => takeDigits rest
  | rest => ([], rest)

/-- The power of ten at the end of a number; zero if there is none. -/
def takePower? : List Char → Option Int
  | [] => some 0
  | mark :: rest => if mark = 'e' ∨ mark = 'E' then readPower? rest else none

/-- A number without its sign. There is a digit before the point or behind it. -/
def readMagnitude? (negative : Bool) (text : List Char) : Option Binary64 :=
  let (whole, afterWhole) := takeDigits text
  let (fraction, afterFraction) := takeFraction afterWhole
  if whole.isEmpty && fraction.isEmpty then none
  else match Numeral.value? (whole ++ fraction), takePower? afterFraction with
    | some coefficient, some power =>
      some (.ofDecimal negative coefficient (power - fraction.length))
    | _, _ => none

/-- The words that stand for numbers, without their sign. -/
def readWord? (negative : Bool) (text : List Char) : Option Binary64 :=
  let word := String.ofList (text.map Char.toLower)
  if word = "inf" ∨ word = "infinity" then some (.infinite negative)
  else if word = "nan" then some (.nan negative .plain)
  else none

/-- Reads a number. -/
def read? (text : String) : Option Binary64 :=
  let (negative, body) := takeSign text.toList
  (readMagnitude? negative body).or (readWord? negative body)

end Underwriting.Binary64
