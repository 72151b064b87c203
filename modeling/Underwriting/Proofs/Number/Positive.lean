import Underwriting.Proofs.Number.Order

/-! # Numbers that are not negative

A sum is rounded, so a summand may leave no trace in it. Of numbers that are not negative this much
is certain: their sum is not negative, and it is positive if one of them is, for rounding never
takes a positive magnitude down to zero. Infinite sums are among the positive ones.
-/

namespace Underwriting

namespace Binary64

theorem place?_zero : place? 0 = some 0 := by decide +kernel

theorem place?_of_isFinite {number : Binary64} (finite : number.isFinite = true) :
    ∃ place, number.place? = some place := by
  obtain ⟨units, counts⟩ := isFinite_iff_units?.mp finite
  exact ⟨_, place?_of_units? counts⟩

/-- Of two finite numbers the second is below the first, or the first is at most the second. -/
theorem atMost_eq_not_below {first second : Binary64} (finite : first.isFinite = true)
    (alsoFinite : second.isFinite = true) : first.atMost second = !second.below first := by
  obtain ⟨place, placed⟩ := place?_of_isFinite finite
  obtain ⟨other, alsoPlaced⟩ := place?_of_isFinite alsoFinite
  simp only [atMost, below, placed, alsoPlaced, ← decide_not, Int.not_lt]

/-- The number is not below zero. -/
def IsNonneg (number : Binary64) : Prop := ∃ place, number.place? = some place ∧ 0 ≤ place

/-- The number is above zero. -/
def IsPositive (number : Binary64) : Prop := ∃ place, number.place? = some place ∧ 0 < place

variable {first second : Binary64}

theorem isNonneg_zero : IsNonneg 0 := ⟨0, place?_zero, Int.le_refl 0⟩

theorem not_isPositive_zero : ¬ IsPositive 0 := by
  rintro ⟨place, placed, above⟩
  cases placed.symm.trans place?_zero
  exact Int.lt_irrefl 0 above

theorem isNonneg_of_not_below (finite : first.isFinite = true) (above : first.below 0 = false) :
    first.IsNonneg := by
  obtain ⟨place, placed⟩ := place?_of_isFinite finite
  simp only [below, placed, place?_zero, decide_eq_false_iff_not, Int.not_lt] at above
  exact ⟨place, placed, above⟩

theorem IsNonneg.not_below_zero (nonneg : first.IsNonneg) : first.below 0 = false := by
  obtain ⟨place, placed, above⟩ := nonneg
  simp only [below, placed, place?_zero, decide_eq_false_iff_not, Int.not_lt, above]

theorem IsNonneg.isNumber (nonneg : first.IsNonneg) : first.isNumber = true := by
  obtain ⟨place, placed, -⟩ := nonneg
  exact isNumber_iff.mpr ⟨place, placed⟩

theorem IsNonneg.atMost_self (nonneg : first.IsNonneg) : first.atMost first = true := by
  obtain ⟨place, placed, -⟩ := nonneg
  exact atMost_of_places placed placed (Int.le_refl place)

theorem isPositive_iff_of_isNonneg (nonneg : first.IsNonneg) :
    first.IsPositive ↔ first.sameValue 0 = false := by
  obtain ⟨place, placed, above⟩ := nonneg
  simp only [IsPositive, sameValue, placed, place?_zero, Option.some.injEq, exists_eq_left',
    beq_eq_false_iff_ne]
  omega

/-- A finite number is not negative if its units are not. -/
theorem isNonneg_iff_of_units? {units : Int} (counts : first.units? = some units) :
    first.IsNonneg ↔ 0 ≤ units := by
  simp only [IsNonneg, place?_of_units? counts, Option.some.injEq, exists_eq_left',
    placeOfUnits_nonneg_iff]

theorem isPositive_iff_of_units? {units : Int} (counts : first.units? = some units) :
    first.IsPositive ↔ 0 < units := by
  simp only [IsPositive, place?_of_units? counts, Option.some.injEq, exists_eq_left',
    placeOfUnits_pos_iff]

private theorem isPositive_infinity : (infinite false).IsPositive :=
  ⟨Magnitude.rankLimit, rfl, by decide⟩

/-- A number that is not negative is infinity or finite. -/
theorem IsNonneg.eq_infinity_or_finite (nonneg : first.IsNonneg) :
    first = infinite false ∨ ∃ units, first.units? = some units ∧ 0 ≤ units := by
  cases finite : first.isFinite with
  | true =>
    obtain ⟨units, counts⟩ := isFinite_iff_units?.mp finite
    exact .inr ⟨units, counts, (isNonneg_iff_of_units? counts).mp nonneg⟩
  | false =>
    obtain ⟨place, placed, above⟩ := nonneg
    cases first with
    | finite negative size => cases finite
    | nan => cases placed
    | infinite negative =>
      cases negative with
      | false => exact .inl rfl
      | true =>
        cases placed
        exact absurd above (by decide)

private theorem infinity_add {units : Int} (counts : first.units? = some units) :
    infinite false + first = infinite false := by
  cases first with
  | finite negative size => rfl
  | infinite negative => cases counts
  | nan => cases counts

private theorem add_infinity {units : Int} (counts : first.units? = some units) :
    first + infinite false = infinite false := by
  cases first with
  | finite negative size => rfl
  | infinite negative => cases counts
  | nan => cases counts

/-- A sum of numbers that are not negative is not negative, and positive exactly if one of them
is. -/
theorem IsNonneg.add (left : first.IsNonneg) (right : second.IsNonneg) :
    (first + second).IsNonneg ∧
      ((first + second).IsPositive ↔ first.IsPositive ∨ second.IsPositive) := by
  rcases left.eq_infinity_or_finite with rfl | ⟨units, counts, above⟩
  · have sum : infinite false + second = infinite false := by
      rcases right.eq_infinity_or_finite with rfl | ⟨others, alsoCounts, -⟩
      · rfl
      · exact infinity_add alsoCounts
    rw [sum]
    exact ⟨left, iff_of_true isPositive_infinity (.inl isPositive_infinity)⟩
  · rcases right.eq_infinity_or_finite with rfl | ⟨others, alsoCounts, alsoAbove⟩
    · rw [add_infinity counts]
      exact ⟨right, iff_of_true isPositive_infinity (.inr isPositive_infinity)⟩
    · rw [isPositive_iff_of_units? counts, isPositive_iff_of_units? alsoCounts]
      simp only [IsNonneg, IsPositive, place?_add counts alsoCounts, Option.some.injEq,
        exists_eq_left', placeOfUnits_nonneg_iff, placeOfUnits_pos_iff]
      omega

/-- Numbers that are not negative have a sum that is not negative, and positive exactly if one of
them is. -/
theorem isNonneg_foldl {numbers : List Binary64} (nonneg : ∀ number ∈ numbers, number.IsNonneg)
    (start : first.IsNonneg) :
    (numbers.foldl (· + ·) first).IsNonneg ∧ ((numbers.foldl (· + ·) first).IsPositive ↔
      first.IsPositive ∨ ∃ number ∈ numbers, number.IsPositive) := by
  induction numbers generalizing first with
  | nil => simpa using start
  | cons number rest ih =>
    obtain ⟨head, tail⟩ := List.forall_mem_cons.mp nonneg
    obtain ⟨nonnegSum, positiveSum⟩ := start.add head
    obtain ⟨nonnegTotal, positiveTotal⟩ := ih tail nonnegSum
    refine ⟨nonnegTotal, positiveTotal.trans ?_⟩
    simp only [positiveSum, or_assoc, List.mem_cons, or_and_right, exists_or, exists_eq_left]

end Binary64

end Underwriting
