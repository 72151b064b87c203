import Underwriting.Field.Value
import Underwriting.Proofs.Number.Order

/-! # Numeric equality

Numerically equal numbers are one and the same, except for the two zeros. The zeros have one
canonical text, so the look-up in a list does not tell equal numbers apart.
-/

namespace Underwriting

namespace Binary64

variable {first second : Binary64}

/-- Zero has one canonical text with either sign. -/
private theorem canonicalNumber_zero (negative : Bool) :
    canonicalNumber (.finite negative .zero) = "0" := by
  cases negative <;> decide +kernel

theorem canonicalNumber_eq_of_sameValue (same : first.sameValue second = true) :
    canonicalNumber first = canonicalNumber second := by
  rcases eq_or_zero_of_sameValue same with rfl | ⟨left, right, rfl, rfl⟩
  · rfl
  · rw [canonicalNumber_zero, canonicalNumber_zero]

end Binary64

end Underwriting
