import Underwriting.Proofs.Number.Positive

/-! # Numbers that stay finite

Rounding does not carry a number of units past a magnitude that is at least as great. So an integer
of 64 bits becomes a finite number, and what is left of a finite number after points are taken off
is not above it: however large the points are, the positive part of the rest is finite. Of two
numbers the greater leaves no smaller rest.
-/

namespace Underwriting

namespace Binary64

open Magnitude (unitsOfRank unitsPerOne)

variable {first second points : Binary64}

private theorem unitsOfRank_word :
    unitsOfRank (1087 * Magnitude.binadeSize) = UInt64.size * unitsPerOne := by
  decide +kernel

/-- An integer of 64 bits is rounded to a finite number. -/
theorem isFinite_ofInt {whole : Int} (word : whole.natAbs ≤ UInt64.size) :
    (ofInt whole).isFinite = true := by
  have atMost : whole.natAbs * unitsPerOne ≤ unitsOfRank (1087 * Magnitude.binadeSize) := by
    rw [unitsOfRank_word]
    exact Nat.mul_le_mul_right _ word
  have inRange := Nat.lt_of_le_of_lt (Magnitude.nearestRank_le atMost)
    (show 1087 * Magnitude.binadeSize < Magnitude.rankLimit by decide)
  unfold ofInt ofUnits
  rw [dif_pos inRange]
  rfl

/-- A number that is not negative is finite if it is at most a finite one. -/
theorem isFinite_of_atMost (nonneg : first.IsNonneg) (atMost : first.atMost second = true)
    (finite : second.isFinite = true) : first.isFinite = true := by
  rcases nonneg.eq_infinity_or_finite with rfl | ⟨units, counts, -⟩
  · obtain ⟨place, other, placed, alsoPlaced, order⟩ := atMost_iff.mp atMost
    cases second with
    | infinite negative => cases finite
    | nan => cases finite
    | finite negative size =>
      have inRange := size.rank_lt
      cases placed
      cases negative <;> cases alsoPlaced <;> simp only [Bool.false_eq_true, ↓reduceIte] at order
        <;> omega
  · exact isFinite_iff_units?.mpr ⟨units, counts⟩

section PositivePart

theorem place?_clampAtZero {place : Int} (placed : first.place? = some place) :
    first.clampAtZero.place? = some (max 0 place) := by
  have nothing : zero.place? = some 0 := rfl
  unfold clampAtZero below
  simp only [nothing, placed, decide_eq_true_eq]
  split
  · rw [placed, Int.max_eq_right (by omega)]
  · rw [nothing, Int.max_eq_left (by omega)]

theorem isNonneg_clampAtZero (number : Binary64) : number.clampAtZero.IsNonneg := by
  cases number with
  | nan => exact ⟨0, rfl, Int.le_refl 0⟩
  | finite | infinite => exact ⟨_, place?_clampAtZero rfl, Int.le_max_left 0 _⟩

theorem isFinite_clampAtZero (finite : first.isFinite = true) :
    first.clampAtZero.isFinite = true := by
  unfold clampAtZero
  split
  · exact finite
  · rfl

theorem clampAtZero_clampAtZero (number : Binary64) :
    number.clampAtZero.clampAtZero = number.clampAtZero := by
  cases above : zero.below number with
  | true => simp only [clampAtZero, above, ↓reduceIte]
  | false =>
    have nothing : number.clampAtZero = zero := by
      simp only [clampAtZero, above, Bool.false_eq_true, ↓reduceIte]
    rw [nothing]
    rfl

/-- Nothing is left of a finite number after infinity is taken off. -/
private theorem clampAtZero_sub_infinity (finite : first.isFinite = true) :
    (first - infinite false).clampAtZero = zero := by
  cases first with
  | finite negative size => rfl
  | infinite negative => cases finite
  | nan => cases finite

/-- What is left after points are taken off is not above the number. -/
theorem clampAtZero_sub_atMost (nonneg : first.IsNonneg) (finite : first.isFinite = true)
    (taken : points.IsNonneg) : (first - points).clampAtZero.atMost first = true := by
  obtain ⟨place, placed, above⟩ := nonneg
  rcases taken.eq_infinity_or_finite with rfl | ⟨others, alsoCounts, _⟩
  · rw [clampAtZero_sub_infinity finite]
    exact atMost_of_places rfl placed above
  · obtain ⟨units, counts⟩ := isFinite_iff_units?.mp finite
    refine atMost_of_places (place?_clampAtZero (place?_sub counts alsoCounts)) placed ?_
    have less := placeOfUnits_mono (show units - others ≤ units by omega)
    cases placed.symm.trans (place?_of_units? counts)
    exact Int.max_le.mpr ⟨above, less⟩

/-- After the same points are taken off no more is left of the smaller number. -/
theorem clampAtZero_sub_mono (finite : first.isFinite = true) (alsoFinite : second.isFinite = true)
    (order : first.atMost second = true) (taken : points.IsNonneg) :
    (first - points).clampAtZero.atMost (second - points).clampAtZero = true := by
  rcases taken.eq_infinity_or_finite with rfl | ⟨others, counts, _⟩
  · rw [clampAtZero_sub_infinity finite, clampAtZero_sub_infinity alsoFinite]
    exact atMost_of_places rfl rfl (Int.le_refl 0)
  · obtain ⟨units, left⟩ := isFinite_iff_units?.mp finite
    obtain ⟨more, right⟩ := isFinite_iff_units?.mp alsoFinite
    have fewer : units - others ≤ more - others :=
      Int.sub_le_sub_right ((atMost_iff_of_units? left right).mp order) others
    refine atMost_of_places (place?_clampAtZero (place?_sub left counts))
      (place?_clampAtZero (place?_sub right counts)) ?_
    have rests := placeOfUnits_mono fewer
    omega

end PositivePart

end Binary64

end Underwriting
