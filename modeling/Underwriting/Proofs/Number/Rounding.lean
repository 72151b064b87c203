import Mathlib.Algebra.GroupWithZero.Nat
import Underwriting.Number.Binary64

/-! # Rounding to a magnitude

A number of units is rounded to the nearest magnitude. Rounding keeps the order, also across the
powers of two at which the grid changes its step, and leaves a number alone that a magnitude stands
for already. So ranks and units have one order, and whole numbers that fit in 53 bits are not
rounded at all.
-/

namespace Underwriting

namespace Magnitude

section HalfEven

variable {first second denominator : Nat}

theorem div_le_roundHalfEven (numerator denominator : Nat) :
    numerator / denominator ≤ roundHalfEven numerator denominator := by
  unfold roundHalfEven
  grind

theorem roundHalfEven_le_succ (numerator denominator : Nat) :
    roundHalfEven numerator denominator ≤ numerator / denominator + 1 := by
  unfold roundHalfEven
  grind

theorem roundHalfEven_mul (whole : Nat) (positive : 0 < denominator) :
    roundHalfEven (whole * denominator) denominator = whole := by
  simp only [roundHalfEven, Nat.mul_mod_left, Nat.mul_zero, positive, ↓reduceIte,
    Nat.mul_div_cancel whole positive]

theorem roundHalfEven_mono (denominator : Nat) (atMost : first ≤ second) :
    roundHalfEven first denominator ≤ roundHalfEven second denominator := by
  have wholes : first / denominator ≤ second / denominator := Nat.div_le_div_right atMost
  rcases Nat.lt_or_eq_of_le wholes with below | same
  · calc roundHalfEven first denominator
        ≤ first / denominator + 1 := roundHalfEven_le_succ first denominator
      _ ≤ second / denominator := below
      _ ≤ roundHalfEven second denominator := div_le_roundHalfEven second denominator
  · -- Between two neighbours the one with the greater rest is not rounded lower.
    have rests : first % denominator ≤ second % denominator := by
      have split := Nat.div_add_mod first denominator
      have alsoSplit := Nat.div_add_mod second denominator
      rw [same] at split
      omega
    unfold roundHalfEven
    rw [same]
    grind

end HalfEven

section Ranks

variable {first second rank : Nat}

theorem binadeSize_pos : 0 < binadeSize := by decide

theorem binadeSize_eq : binadeSize = 2 ^ 52 := by decide

/-- The rank of a magnitude in a binade behind the first. -/
theorem unitsOfRank_add {place : Nat} (shift : Nat) (within : place < binadeSize) :
    unitsOfRank ((shift + 1) * binadeSize + place) = (binadeSize + place) * 2 ^ shift := by
  have beyond : ¬ (shift + 1) * binadeSize + place < binadeSize := by
    rw [Nat.add_mul, Nat.one_mul]
    omega
  have binade : ((shift + 1) * binadeSize + place) / binadeSize = shift + 1 := by
    rw [Nat.mul_comm, Nat.mul_add_div binadeSize_pos, Nat.div_eq_of_lt within, Nat.add_zero]
  have rest : ((shift + 1) * binadeSize + place) % binadeSize = place := by
    rw [Nat.mul_comm, Nat.mul_add_mod, Nat.mod_eq_of_lt within]
  rw [unitsOfRank, if_neg beyond, binade, rest, Nat.add_sub_cancel, Nat.pow_eq]

/-- The number of binary digits that do not fit. -/
private def excess (units : Nat) : Nat := units.log2 - 52

private theorem nearestRank_eq (units : Nat) :
    nearestRank units 1 = roundHalfEven units (2 ^ excess units) + excess units * binadeSize := by
  simp only [nearestRank, excess, Nat.div_one, Nat.one_mul, Nat.pow_eq]

private theorem excess_mono (atMost : first ≤ second) : excess first ≤ excess second := by
  by_cases none : first = 0
  · subst none
    exact Nat.zero_le _
  · have bits : first.log2 ≤ second.log2 :=
      (Nat.le_log2 (by omega)).mpr (Nat.le_trans (Nat.log2_self_le none) atMost)
    exact Nat.sub_le_sub_right bits 52

private theorem excess_eq {shift place : Nat} (within : place < binadeSize) :
    excess ((binadeSize + place) * 2 ^ shift) = shift := by
  rw [binadeSize_eq] at within ⊢
  have bits : ((2 ^ 52 + place) * 2 ^ shift).log2 = 52 + shift := by
    have some : (2 ^ 52 + place) * 2 ^ shift ≠ 0 :=
      Nat.mul_ne_zero (by omega) (Nat.ne_of_gt (Nat.two_pow_pos shift))
    refine (Nat.log2_eq_iff some).mpr ⟨?_, ?_⟩
    · rw [Nat.pow_add]
      exact Nat.mul_le_mul_right _ (Nat.le_add_right _ _)
    · rw [Nat.add_right_comm, Nat.pow_add]
      exact Nat.mul_lt_mul_of_pos_right (by omega) (Nat.two_pow_pos shift)
  rw [excess, bits, Nat.add_sub_cancel_left]

/-- Rounding does not leave the binade, except for the power of two at its end. -/
private theorem nearestRank_le_binade (units : Nat) :
    nearestRank units 1 ≤ (excess units + 2) * binadeSize := by
  have double : 2 * binadeSize = 2 ^ 53 := by decide
  have reaches : units ≤ 2 * binadeSize * 2 ^ excess units := by
    refine Nat.le_of_lt (Nat.lt_of_lt_of_le Nat.lt_log2_self ?_)
    calc 2 ^ (units.log2 + 1)
        ≤ 2 ^ (53 + excess units) :=
          Nat.pow_le_pow_right Nat.two_pos (by rw [excess]; omega)
      _ = 2 * binadeSize * 2 ^ excess units := by rw [Nat.pow_add, double]
  have rounded := roundHalfEven_mono (2 ^ excess units) reaches
  rw [roundHalfEven_mul _ (Nat.two_pow_pos _)] at rounded
  rw [nearestRank_eq, Nat.add_mul]
  omega

private theorem binade_le_nearestRank {units : Nat} (normal : 0 < excess units) :
    (excess units + 1) * binadeSize ≤ nearestRank units 1 := by
  have reaches : binadeSize * 2 ^ excess units ≤ units := by
    have some : units ≠ 0 := by
      rintro rfl
      exact absurd normal (by decide)
    calc binadeSize * 2 ^ excess units
        = 2 ^ (52 + excess units) := by rw [Nat.pow_add, binadeSize_eq]
      _ ≤ 2 ^ units.log2 := Nat.pow_le_pow_right Nat.two_pos (by rw [excess] at normal ⊢; omega)
      _ ≤ units := Nat.log2_self_le some
  have rounded := roundHalfEven_mono (2 ^ excess units) reaches
  rw [roundHalfEven_mul _ (Nat.two_pow_pos _)] at rounded
  rw [nearestRank_eq, Nat.add_mul]
  omega

/-- More units are not rounded to a lower rank. -/
theorem nearestRank_mono (atMost : first ≤ second) :
    nearestRank first 1 ≤ nearestRank second 1 := by
  rcases Nat.lt_or_eq_of_le (excess_mono atMost) with below | same
  · calc nearestRank first 1
        ≤ (excess first + 2) * binadeSize := nearestRank_le_binade first
      _ ≤ (excess second + 1) * binadeSize := Nat.mul_le_mul_right _ (by omega)
      _ ≤ nearestRank second 1 := binade_le_nearestRank (by omega)
  · rw [nearestRank_eq, nearestRank_eq, same]
    exact Nat.add_le_add_right (roundHalfEven_mono _ atMost) _

/-- The units of a magnitude are rounded to that magnitude. -/
theorem nearestRank_unitsOfRank (rank : Nat) : nearestRank (unitsOfRank rank) 1 = rank := by
  by_cases subnormal : rank < binadeSize
  · have exact : excess rank = 0 := by
      have below := excess_mono (Nat.le_of_lt subnormal)
      have top : excess binadeSize = 0 := by decide
      omega
    have whole := roundHalfEven_mul rank Nat.one_pos
    rw [Nat.mul_one] at whole
    rw [unitsOfRank, if_pos subnormal, nearestRank_eq, exact, Nat.zero_mul, Nat.add_zero,
      Nat.pow_zero, whole]
  · obtain ⟨shift, place, within, rfl⟩ :
        ∃ shift place, place < binadeSize ∧ rank = (shift + 1) * binadeSize + place := by
      have split := Nat.div_add_mod rank binadeSize
      have binade : 1 ≤ rank / binadeSize :=
        (Nat.one_le_div_iff binadeSize_pos).mpr (Nat.not_lt.mp subnormal)
      refine ⟨rank / binadeSize - 1, rank % binadeSize, Nat.mod_lt _ binadeSize_pos, ?_⟩
      rw [Nat.sub_add_cancel binade, Nat.mul_comm, split]
    rw [unitsOfRank_add shift within, nearestRank_eq, excess_eq within,
      roundHalfEven_mul _ (Nat.two_pow_pos shift), Nat.add_mul]
    omega

/-- Units are in the order of their ranks. -/
theorem unitsOfRank_le_iff : unitsOfRank first ≤ unitsOfRank second ↔ first ≤ second := by
  constructor
  · intro atMost
    have ranks := nearestRank_mono atMost
    rwa [nearestRank_unitsOfRank, nearestRank_unitsOfRank] at ranks
  · intro atMost
    refine Nat.le_of_not_lt fun above => ?_
    have ranks := nearestRank_mono (Nat.le_of_lt above)
    rw [nearestRank_unitsOfRank, nearestRank_unitsOfRank] at ranks
    rw [Nat.le_antisymm atMost ranks] at above
    exact Nat.lt_irrefl _ above

/-- Numbers of units are not rounded past a magnitude. -/
theorem nearestRank_le {units : Nat} (atMost : units ≤ unitsOfRank rank) :
    nearestRank units 1 ≤ rank := by
  have rounded := nearestRank_mono atMost
  rwa [nearestRank_unitsOfRank] at rounded

/-- A number of 53 binary digits, with zeros behind them, is the number of units of a rank. -/
theorem exists_unitsOfRank_eq {whole : Nat} (fits : whole < 2 * binadeSize) (zeros : Nat) :
    ∃ rank < (zeros + 2) * binadeSize, unitsOfRank rank = whole * 2 ^ zeros := by
  induction zeros generalizing whole with
  | zero =>
    by_cases subnormal : whole < binadeSize
    · refine ⟨whole, by omega, ?_⟩
      rw [unitsOfRank, if_pos subnormal, Nat.pow_zero, Nat.mul_one]
    · have within : whole - binadeSize < binadeSize := by omega
      have units := unitsOfRank_add 0 within
      refine ⟨_, ?_, units.trans ?_⟩
      · omega
      · rw [Nat.add_sub_cancel' (Nat.not_lt.mp subnormal)]
  | succ zeros ih =>
    by_cases short : whole < binadeSize
    · obtain ⟨rank, below, units⟩ := @ih (2 * whole) (by omega)
      refine ⟨rank, Nat.lt_of_lt_of_le below (Nat.mul_le_mul_right _ (by omega)), ?_⟩
      rw [units, Nat.pow_succ, Nat.mul_comm 2 whole, Nat.mul_assoc, Nat.mul_comm 2]
    · have within : whole - binadeSize < binadeSize := by omega
      have units := unitsOfRank_add (zeros + 1) within
      refine ⟨_, ?_, units.trans ?_⟩
      · rw [Nat.add_mul _ 1, Nat.add_mul _ 2]
        omega
      · rw [Nat.add_sub_cancel' (Nat.not_lt.mp short)]

end Ranks

end Magnitude

end Underwriting
