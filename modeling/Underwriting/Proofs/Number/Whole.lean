import Underwriting.Proofs.Number.Finite

/-! # Whole numbers

A whole number of at most 53 binary digits is not rounded, and neither is a sum or a difference that
is one again. So arithmetic on such numbers is that of the integers, and the positive part of a
number is determined by the integer that it is.
-/

namespace Underwriting

namespace Binary64

open Magnitude (unitsOfRank unitsPerOne rankLimit)

variable {first second : Binary64} {whole other : Int}

private theorem unitsPerOne_eq : unitsPerOne = 2 ^ 1074 := by decide +kernel

private theorem unitsPerOne_pos : 0 < unitsPerOne := by decide +kernel

/-- A number is an integer if it counts that many times the units of one. -/
theorem toInt?_eq_some_iff : first.toInt? = some whole ↔
    first.units? = some (whole * unitsPerOne) := by
  have positive : (unitsPerOne : Int) ≠ 0 := Int.natCast_ne_zero.mpr (Nat.ne_of_gt unitsPerOne_pos)
  unfold toInt?
  split
  case h_1 units counts =>
    simp only [counts, Option.some.injEq, Option.ite_none_right_eq_some]
    constructor
    · rintro ⟨divides, rfl⟩
      exact (Int.ediv_mul_cancel_of_emod_eq_zero divides).symm
    · rintro rfl
      exact ⟨Int.mul_emod_left _ _, Int.mul_ediv_cancel _ positive⟩
  case h_2 missing => simp only [missing, reduceCtorEq]

/-- A whole number of 53 binary digits is a magnitude. -/
theorem exists_unitsOfRank_eq_whole {size : Nat} (fits : size < 2 ^ 53) :
    ∃ rank < rankLimit, unitsOfRank rank = size * unitsPerOne := by
  obtain ⟨rank, below, units⟩ := Magnitude.exists_unitsOfRank_eq fits 1074
  rw [unitsPerOne_eq]
  exact ⟨rank, Nat.lt_trans below (by decide), units⟩

section Arithmetic

theorem toInt?_add (left : first.toInt? = some whole) (right : second.toInt? = some other)
    (fits : (whole + other).natAbs < 2 ^ 53) : (first + second).toInt? = some (whole + other) := by
  rw [toInt?_eq_some_iff] at left right ⊢
  obtain ⟨rank, inRange, units⟩ := exists_unitsOfRank_eq_whole fits
  rw [Int.add_mul]
  refine units?_add left right inRange ?_
  rw [← Int.add_mul, Int.natAbs_mul, Int.natAbs_natCast, units]

theorem toInt?_sub (left : first.toInt? = some whole) (right : second.toInt? = some other)
    (fits : (whole - other).natAbs < 2 ^ 53) : (first - second).toInt? = some (whole - other) := by
  refine toInt?_add left ?_ fits
  rw [toInt?_eq_some_iff] at right ⊢
  rw [Int.neg_mul]
  exact units?_neg right

/-- The sum of numbers that are not negative integers is the sum of these integers. -/
theorem toInt?_foldl {α : Type} {items : List α} {number : α → Binary64} {size : α → Nat}
    (wholes : ∀ item ∈ items, (number item).toInt? = some (size item : Int)) {start : Nat}
    (begins : first.toInt? = some (start : Int)) (fits : start + (items.map size).sum < 2 ^ 53) :
    ((items.map number).foldl (· + ·) first).toInt? =
      some ((start + (items.map size).sum : Nat) : Int) := by
  induction items generalizing first start with
  | nil => exact begins
  | cons item rest ih =>
    obtain ⟨head, tail⟩ := List.forall_mem_cons.mp wholes
    simp only [List.map_cons, List.sum_cons, ← Nat.add_assoc] at fits ⊢
    have sum := toInt?_add begins head (by omega)
    exact ih tail sum fits

end Arithmetic

section Order

private theorem placeOfUnits_whole_pos_iff : 0 < placeOfUnits (whole * unitsPerOne) ↔ 0 < whole := by
  have one := Int.natCast_pos.mpr unitsPerOne_pos
  rw [placeOfUnits_pos_iff]
  exact ⟨fun above => Int.pos_of_mul_pos_left above one, fun above => Int.mul_pos above one⟩

private theorem placeOfUnits_whole_nonneg_iff :
    0 ≤ placeOfUnits (whole * unitsPerOne) ↔ 0 ≤ whole := by
  rw [placeOfUnits_nonneg_iff]
  exact Int.mul_nonneg_iff_of_pos_right (Int.natCast_pos.mpr unitsPerOne_pos)

theorem sameValue_zero_iff (is : first.toInt? = some whole) :
    first.sameValue 0 = true ↔ whole = 0 := by
  have placed := place?_of_units? (toInt?_eq_some_iff.mp is)
  have above := @placeOfUnits_whole_pos_iff whole
  have nonneg := @placeOfUnits_whole_nonneg_iff whole
  simp only [sameValue, placed, place?_zero, beq_iff_eq]
  omega

theorem toInt?_clampAtZero (is : first.toInt? = some whole) :
    first.clampAtZero.toInt? = some (max 0 whole) := by
  have placed := place?_of_units? (toInt?_eq_some_iff.mp is)
  have nothing : zero.place? = some 0 := rfl
  have above := @placeOfUnits_whole_pos_iff whole
  simp only [clampAtZero, below, nothing, placed, decide_eq_true_eq, above]
  split
  case isTrue positive => rw [is, Int.max_eq_right (Int.le_of_lt positive)]
  case isFalse none =>
    rw [Int.max_eq_left (Int.not_lt.mp none), toInt?_eq_some_iff, Int.zero_mul]
    rfl

/-- The positive parts of numbers that are the same integer are the same, zeros included. -/
theorem clampAtZero_eq_of_toInt? (is : first.toInt? = some whole)
    (alsoIs : second.toInt? = some whole) : first.clampAtZero = second.clampAtZero := by
  have placed := place?_of_units? (toInt?_eq_some_iff.mp is)
  have alsoPlaced := place?_of_units? (toInt?_eq_some_iff.mp alsoIs)
  rcases eq_or_zero_of_place? placed alsoPlaced with rfl | ⟨left, right, rfl, rfl⟩
  · rfl
  · cases left <;> cases right <;> rfl

end Order

end Binary64

end Underwriting
