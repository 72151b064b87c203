import Underwriting.Json.Basic

/-!
# Field values

The value of a field is a number, a text or a flag. Its canonical text decides membership in
lists: a number that is an integer below 10¹⁵ has no fraction there, so that 700 and 700.0 agree.
-/

namespace Underwriting

/-- The value of a field of an application. -/
inductive FieldValue
  | number (value : Binary64)
  | text (value : String)
  | flag (value : Bool)
deriving DecidableEq

/-- The canonical text of a number. -/
def canonicalNumber (number : Binary64) : String :=
  match number.toInt? with
  | some whole => if whole.natAbs < Nat.pow 10 15 then Numeral.writeInt whole else number.text
  | none => number.text

namespace FieldValue

/-- The number, if the value is one. -/
def number? : FieldValue → Option Binary64
  | .number value => some value
  | _ => none

/-- The flag, if the value is one. -/
def flag? : FieldValue → Option Bool
  | .flag value => some value
  | _ => none

/-- The text that is compared with the entries of a list. -/
def canonical : FieldValue → String
  | .number value => canonicalNumber value
  | .text value => value
  | .flag value => if value then "true" else "false"

/-- The value as JSON. -/
def toJson : FieldValue → Json
  | .number value => .ofBinary64 value
  | .text value => .string value
  | .flag value => .bool value

end FieldValue

end Underwriting
