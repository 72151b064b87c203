import Underwriting.Number.Shortest
import Underwriting.Proofs.Number.Rounding

/-! # The decimals that a magnitude is written as

Every magnitude has an interval of positions that are rounded to it, and no position lies in the
intervals of two. The shortest decimal of a magnitude lies in its interval, whichever grid it was
found on and whatever becomes of a tie, so it stands for this magnitude and for no other.
-/

namespace Underwriting

/-- The position of a decimal on the line of magnitudes, as a multiple of 10⁻¹⁰⁷⁵. -/
def Decimal.position (decimal : Decimal) : Nat :=
  decimal.coefficient * 10 ^ (decimal.exponent + 1075).toNat

namespace Magnitude

section Intervals

variable {first second : Magnitude} {position : Nat}

theorem scaledPosition_le_iff {twice other : Nat} :
    scaledPosition twice ≤ scaledPosition other ↔ twice ≤ other := by
  have positive : 0 < Nat.pow 5 1075 := by decide +kernel
  unfold scaledPosition
  generalize Nat.pow 5 1075 = scale at positive
  exact Nat.mul_le_mul_right_iff positive

theorem scaledPosition_lt_iff {twice other : Nat} :
    scaledPosition twice < scaledPosition other ↔ twice < other := by
  rw [← Nat.not_le, ← Nat.not_le, scaledPosition_le_iff]

theorem unitsOfRank_lt_iff {first second : Nat} :
    unitsOfRank first < unitsOfRank second ↔ first < second := by
  rw [← Nat.not_le, ← Nat.not_le, unitsOfRank_le_iff]

theorem roundsTo_iff : first.roundsTo position = true ↔
    if first.rank % 2 = 0 then
      scaledPosition (unitsOfRank (first.rank - 1) + first.units) ≤ position ∧
        position ≤ scaledPosition (first.units + unitsOfRank (first.rank + 1))
    else
      scaledPosition (unitsOfRank (first.rank - 1) + first.units) < position ∧
        position < scaledPosition (first.units + unitsOfRank (first.rank + 1)) := by
  unfold roundsTo
  split <;> simp only [Bool.and_eq_true, decide_eq_true_eq]

/-- A magnitude lies in its own interval. -/
theorem roundsTo_units (magnitude : Magnitude) :
    magnitude.roundsTo (scaledPosition (2 * magnitude.units)) = true := by
  have below : unitsOfRank (magnitude.rank - 1) ≤ magnitude.units :=
    unitsOfRank_le_iff.mpr (Nat.sub_le _ _)
  have above : magnitude.units < unitsOfRank (magnitude.rank + 1) :=
    unitsOfRank_lt_iff.mpr (Nat.lt_succ_self _)
  rw [roundsTo_iff]
  split
  case isTrue even =>
    rw [scaledPosition_le_iff, scaledPosition_le_iff]
    omega
  case isFalse odd =>
    have strict : unitsOfRank (magnitude.rank - 1) < magnitude.units :=
      unitsOfRank_lt_iff.mpr (by omega)
    rw [scaledPosition_lt_iff, scaledPosition_lt_iff]
    omega

/-- An interval reaches no further than to where the next one begins, and neighbours do not share
that end. -/
private theorem not_roundsTo_of_lt (below : first.rank < second.rank)
    (left : first.roundsTo position = true) : second.roundsTo position = false := by
  rw [← Bool.not_eq_true]
  intro right
  have upper : unitsOfRank (first.rank + 1) ≤ second.units := unitsOfRank_le_iff.mpr below
  have lower : first.units ≤ unitsOfRank (second.rank - 1) :=
    unitsOfRank_le_iff.mpr (by omega)
  have ends : scaledPosition (first.units + unitsOfRank (first.rank + 1)) ≤
      scaledPosition (unitsOfRank (second.rank - 1) + second.units) :=
    scaledPosition_le_iff.mpr (Nat.add_le_add lower upper)
  rw [roundsTo_iff] at left right
  by_cases next : second.rank = first.rank + 1
  · -- Of two neighbours one is odd, and its interval is open.
    grind
  · have gap : scaledPosition (first.units + unitsOfRank (first.rank + 1)) <
        scaledPosition (unitsOfRank (second.rank - 1) + second.units) := by
      have beyond : unitsOfRank (first.rank + 1) < second.units :=
        unitsOfRank_lt_iff.mpr (by omega)
      exact scaledPosition_lt_iff.mpr (Nat.add_lt_add_of_le_of_lt lower beyond)
    grind

theorem eq_of_roundsTo (left : first.roundsTo position = true)
    (right : second.roundsTo position = true) : first = second := by
  rcases Nat.lt_trichotomy first.rank second.rank with below | same | above
  · rw [not_roundsTo_of_lt below left] at right
    cases right
  · obtain ⟨rank, inRange⟩ := first
    obtain ⟨_, _⟩ := second
    cases same
    rfl
  · rw [not_roundsTo_of_lt above right] at left
    cases left

end Intervals

section Grids

variable {magnitude : Magnitude} {tie : Tie}

/-- What is found on a grid is rounded to the magnitude. -/
theorem roundsTo_neighbour? {step coefficient : Nat}
    (found : magnitude.neighbour? tie step = some coefficient) :
    magnitude.roundsTo (coefficient * step) = true := by
  unfold neighbour? at found
  generalize scaledPosition (2 * magnitude.units) = centre at found
  cases lower : magnitude.roundsTo (centre / step * step) with
  | false =>
    cases upper : magnitude.roundsTo ((centre / step + 1) * step) with
    | false =>
      simp only [lower, upper] at found
      cases found
    | true =>
      simp only [lower, upper] at found
      cases found
      exact upper
  | true =>
    cases upper : magnitude.roundsTo ((centre / step + 1) * step) with
    | false =>
      simp only [lower, upper] at found
      cases found
      exact lower
    | true =>
      simp only [lower, upper] at found
      have either : coefficient = centre / step ∨ coefficient = centre / step + 1 := by
        grind
      rcases either with rfl | rfl
      · exact lower
      · exact upper

/-- The decimal of the first grid that has one is rounded to the magnitude. So is the magnitude
itself, which is taken if no grid has one. -/
theorem roundsTo_shortestFrom (magnitude : Magnitude) (tie : Tie) (width : Nat)
    (counts : List Nat) :
    -1075 ≤ (magnitude.shortestFrom tie width counts).exponent ∧
      magnitude.roundsTo (magnitude.shortestFrom tie width counts).position = true := by
  induction counts with
  | nil =>
    refine ⟨Int.le_refl _, ?_⟩
    simp only [shortestFrom, Decimal.position, Int.add_left_neg, Int.toNat_zero, Nat.pow_zero,
      Nat.mul_one]
    exact magnitude.roundsTo_units
  | cons count more ih =>
    rw [shortestFrom]
    split
    case h_1 coefficient found =>
      have grid := roundsTo_neighbour? found
      simp only [Decimal.position, Int.sub_add_cancel, Int.toNat_natCast]
      exact ⟨by omega, grid⟩
    case h_2 => exact ih

end Grids

end Magnitude

/-- Zeros at the end of a coefficient count for its position as much as in the exponent. -/
theorem Decimal.position_stripZeros (decimal : Decimal) (least : -1075 ≤ decimal.exponent) :
    -1075 ≤ decimal.stripZeros.exponent ∧ decimal.stripZeros.position = decimal.position := by
  fun_induction stripZeros decimal with
  | case1 decimal zero ih =>
    obtain ⟨still, same⟩ := ih (by simp only; omega)
    refine ⟨still, same.trans ?_⟩
    have shift : (decimal.exponent + 1 + 1075).toNat = (decimal.exponent + 1075).toNat + 1 := by
      omega
    have tenth : decimal.coefficient / 10 * 10 = decimal.coefficient := by omega
    simp only [position, shift]
    rw [Nat.pow_succ, Nat.mul_left_comm, tenth, Nat.mul_comm]
  | case2 decimal => exact ⟨least, rfl⟩

/-- The shortest decimal of a magnitude is rounded to the magnitude. -/
theorem Magnitude.roundsTo_shortest (magnitude : Magnitude) (tie : Tie) :
    -1075 ≤ (magnitude.shortest tie).exponent ∧
      magnitude.roundsTo (magnitude.shortest tie).position = true := by
  unfold shortest
  split
  case isTrue none =>
    have rounds := magnitude.roundsTo_units
    have nothing : magnitude.units = 0 := by rw [units, none]; rfl
    have origin : scaledPosition (2 * 0) = 0 := by
      unfold scaledPosition
      generalize Nat.pow 5 1075 = scale
      rw [Nat.mul_zero, Nat.zero_mul]
    rw [nothing, origin] at rounds
    simp only [Decimal.position, Nat.zero_mul]
    exact ⟨by decide, rounds⟩
  case isFalse =>
    obtain ⟨least, rounds⟩ := roundsTo_shortestFrom magnitude tie
      (Numeral.digitCount (scaledPosition (2 * magnitude.units))) (List.range' 1 17)
    obtain ⟨still, same⟩ := Decimal.position_stripZeros _ least
    exact ⟨still, same ▸ rounds⟩

end Underwriting
