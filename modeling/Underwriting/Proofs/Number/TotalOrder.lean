import Underwriting.Proofs.Number.Order

/-! # The total order of numbers

Numeric comparison leaves some numbers unordered: the two zeros are equal to it, and a non-number is
comparable to nothing. The total order completes it. What is numerically smaller comes first, and of
the zeros the negative one. The negative non-numbers come before all numbers and the positive ones
behind them. Of positive non-numbers the signalling ones come first, and then those of lesser
payload; negative ones stand the other way round. The order is read off one integer for each number,
its place in this order, and no two numbers share a place.
-/

namespace Underwriting

namespace NanCode

/-- The first code is signalling and the second one quiet, or both are of one kind and the first
has the lesser payload. -/
inductive Before (first second : NanCode) : Prop
  | signalling : first.quiet = false → second.quiet = true → Before first second
  | payload : first.quiet = second.quiet → first.payload < second.payload → Before first second

variable {first second : NanCode}

theorem fraction_pos (code : NanCode) : 0 < code.fraction := by
  cases kind : code.quiet <;> simp only [fraction, kind, Bool.false_eq_true, ↓reduceIte]
  · exact code.payload_pos kind
  · exact Nat.add_pos_left (by decide) _

/-- No two codes have one fraction. -/
theorem eq_of_fraction (same : first.fraction = second.fraction) : first = second := by
  obtain ⟨quiet, payload, inRange, _⟩ := first
  obtain ⟨other, further, alsoInRange, _⟩ := second
  cases quiet <;> cases other <;> simp only [fraction, Bool.false_eq_true, ↓reduceIte] at same
  case false.false =>
    cases same
    rfl
  case false.true => omega
  case true.false => omega
  case true.true =>
    cases Nat.add_left_cancel same
    rfl

/-- Codes stand in the order of their fractions. -/
theorem before_iff : first.Before second ↔ first.fraction < second.fraction := by
  have inRange := first.payload_lt
  constructor
  · intro before
    cases before with
    | signalling signals quiet =>
      simp only [fraction, signals, quiet, Bool.false_eq_true, ↓reduceIte]
      omega
    | payload same less =>
      simp only [fraction, same]
      split <;> omega
  · intro less
    cases kind : first.quiet <;> cases other : second.quiet <;>
      simp only [fraction, kind, other, Bool.false_eq_true, ↓reduceIte] at less
    · exact .payload (kind.trans other.symm) less
    · exact .signalling kind other
    · have alsoInRange := second.payload_lt
      omega
    · exact .payload (kind.trans other.symm) (Nat.lt_of_add_lt_add_left less)

end NanCode

namespace Binary64

/-- The first number is the second one or comes before it in the total order. -/
inductive TotallyAtMost : Binary64 → Binary64 → Prop
  | same (number : Binary64) : TotallyAtMost number number
  | below {first second : Binary64} : first.below second = true → TotallyAtMost first second
  | zeros : TotallyAtMost (.finite true .zero) (.finite false .zero)
  | negativeNan (code : NanCode) {number : Binary64} :
      number.isNumber = true → TotallyAtMost (.nan true code) number
  | positiveNan (code : NanCode) {number : Binary64} :
      number.isNumber = true → TotallyAtMost number (.nan false code)
  | opposedNans (first second : NanCode) : TotallyAtMost (.nan true first) (.nan false second)
  | positiveNans {first second : NanCode} :
      first.Before second → TotallyAtMost (.nan false first) (.nan false second)
  | negativeNans {first second : NanCode} :
      second.Before first → TotallyAtMost (.nan true first) (.nan true second)

section Places

variable {number first second : Binary64}

theorem place?_eq (isNumber : number.isNumber = true) :
    number.place? = some (if number.isNegative then -(number.height : Int) else number.height) := by
  cases number with
  | nan => cases isNumber
  | finite => rfl
  | infinite => rfl

/-- What is no number has a sign and a code, and stands farther from zero than infinity. -/
theorem exists_nan_of_not_isNumber (notNumber : number.isNumber = false) :
    ∃ negative code, number = .nan negative code := by
  cases number with
  | nan negative code => exact ⟨negative, code, rfl⟩
  | finite => cases notNumber
  | infinite => cases notNumber

/-- A number is its sign and its height. -/
theorem eq_of_height (signs : first.isNegative = second.isNegative)
    (heights : first.height = second.height) : first = second := by
  cases first <;> cases second <;> simp only [isNegative, height] at signs heights
  case finite.finite left size right other =>
    obtain ⟨rank, _⟩ := size
    obtain ⟨_, _⟩ := other
    cases signs
    cases heights
    rfl
  case finite.infinite left size right => exact absurd size.rank_lt (by omega)
  case infinite.finite left right size => exact absurd size.rank_lt (by omega)
  case infinite.infinite => exact congrArg _ signs
  case finite.nan left size right code => exact absurd size.rank_lt (by omega)
  case nan.finite left code right size => exact absurd size.rank_lt (by omega)
  case infinite.nan left right code => exact absurd code.fraction_pos (by omega)
  case nan.infinite left code right => exact absurd code.fraction_pos (by omega)
  case nan.nan left code right other =>
    cases signs
    cases NanCode.eq_of_fraction (Nat.add_left_cancel heights)
    rfl

/-- No two numbers share a place in the total order. -/
theorem totalPlace_inj : first.totalPlace = second.totalPlace ↔ first = second := by
  refine ⟨fun same => ?_, congrArg totalPlace⟩
  rw [totalPlace, totalPlace] at same
  cases left : first.isNegative <;> cases right : second.isNegative <;>
    simp only [left, right, Bool.false_eq_true, ↓reduceIte] at same
  · exact eq_of_height (left.trans right.symm) (by omega)
  · omega
  · omega
  · exact eq_of_height (left.trans right.symm) (by omega)

theorem totalPlace_negativeNan (code : NanCode) :
    (nan true code).totalPlace = -(Magnitude.rankLimit + code.fraction) - 1 := rfl

theorem totalPlace_positiveNan (code : NanCode) :
    (nan false code).totalPlace = Magnitude.rankLimit + code.fraction := rfl

/-- Numbers stand between the infinities. -/
theorem totalPlace_bounds (isNumber : number.isNumber = true) :
    -Magnitude.rankLimit - 1 ≤ number.totalPlace ∧ number.totalPlace ≤ Magnitude.rankLimit := by
  have bounded : number.height ≤ Magnitude.rankLimit := by
    cases number with
    | nan => cases isNumber
    | infinite => exact Nat.le_refl _
    | finite negative size => exact Nat.le_of_lt size.rank_lt
  rw [totalPlace]
  split <;> omega

theorem below_iff_places (left : first.isNumber = true) (right : second.isNumber = true) :
    first.below second = true ↔
      (if first.isNegative then -(first.height : Int) else first.height) <
        if second.isNegative then -(second.height : Int) else second.height := by
  rw [below, place?_eq left, place?_eq right, decide_eq_true_eq]

theorem isNumber_of_below (smaller : first.below second = true) :
    first.isNumber = true ∧ second.isNumber = true := by
  unfold below at smaller
  split at smaller
  · rename_i place other left right
    exact ⟨isNumber_iff.mpr ⟨place, left⟩, isNumber_iff.mpr ⟨other, right⟩⟩
  · cases smaller

theorem totalPlace_le_of_totallyAtMost (ordered : first.TotallyAtMost second) :
    first.totalPlace ≤ second.totalPlace := by
  cases ordered with
  | same => exact Int.le_refl _
  | zeros => decide
  | below smaller =>
    obtain ⟨left, right⟩ := isNumber_of_below smaller
    rw [below_iff_places left right] at smaller
    rw [totalPlace, totalPlace]
    cases leftSign : first.isNegative <;> cases rightSign : second.isNegative <;>
      simp only [leftSign, rightSign, Bool.false_eq_true, ↓reduceIte] at smaller ⊢ <;> omega
  | negativeNan code isNumber =>
    have above := (totalPlace_bounds isNumber).1
    rw [totalPlace_negativeNan]
    omega
  | positiveNan code isNumber =>
    have below := (totalPlace_bounds isNumber).2
    rw [totalPlace_positiveNan]
    omega
  | opposedNans code other =>
    rw [totalPlace_negativeNan, totalPlace_positiveNan]
    omega
  | positiveNans before =>
    have less := NanCode.before_iff.mp before
    rw [totalPlace_positiveNan, totalPlace_positiveNan]
    omega
  | negativeNans before =>
    have less := NanCode.before_iff.mp before
    rw [totalPlace_negativeNan, totalPlace_negativeNan]
    omega

/-- Numbers at ordered places are ordered: where neither is smaller only the zeros differ. -/
private theorem totallyAtMost_of_isNumber (left : first.isNumber = true)
    (right : second.isNumber = true) (ordered : first.totalPlace ≤ second.totalPlace) :
    first.TotallyAtMost second := by
  by_cases smaller : first.below second = true
  · exact .below smaller
  rw [below_iff_places left right] at smaller
  rw [totalPlace, totalPlace] at ordered
  cases leftSign : first.isNegative <;> cases rightSign : second.isNegative <;>
    simp only [leftSign, rightSign, Bool.false_eq_true, ↓reduceIte] at ordered smaller
  · rw [eq_of_height (leftSign.trans rightSign.symm) (by omega)]
    exact .same second
  · omega
  · have low : first = .finite true .zero := eq_of_height leftSign (by change _ = 0; omega)
    have high : second = .finite false .zero := eq_of_height rightSign (by change _ = 0; omega)
    rw [low, high]
    exact .zeros
  · rw [eq_of_height (leftSign.trans rightSign.symm) (by omega)]
    exact .same second

/-- Non-numbers at ordered places are ordered. -/
private theorem totallyAtMost_nan {left right : Bool} {code other : NanCode}
    (ordered : (nan left code).totalPlace ≤ (nan right other).totalPlace) :
    (nan left code).TotallyAtMost (nan right other) := by
  cases left <;> cases right <;>
    simp only [totalPlace_negativeNan, totalPlace_positiveNan] at ordered
  case false.true => omega
  case true.false => exact .opposedNans code other
  case false.false =>
    rcases Nat.lt_or_eq_of_le (show code.fraction ≤ other.fraction by omega) with less | same
    · exact .positiveNans (NanCode.before_iff.mpr less)
    · rw [NanCode.eq_of_fraction same]
      exact .same _
  case true.true =>
    rcases Nat.lt_or_eq_of_le (show other.fraction ≤ code.fraction by omega) with less | same
    · exact .negativeNans (NanCode.before_iff.mpr less)
    · rw [NanCode.eq_of_fraction same]
      exact .same _

/-- The total order is the order of the places. -/
theorem totallyAtMost_iff : first.TotallyAtMost second ↔ first.totalPlace ≤ second.totalPlace := by
  refine ⟨totalPlace_le_of_totallyAtMost, fun ordered => ?_⟩
  cases left : first.isNumber <;> cases right : second.isNumber
  case true.true => exact totallyAtMost_of_isNumber left right ordered
  case false.false =>
    obtain ⟨negative, code, rfl⟩ := exists_nan_of_not_isNumber left
    obtain ⟨other, further, rfl⟩ := exists_nan_of_not_isNumber right
    exact totallyAtMost_nan ordered
  case true.false =>
    obtain ⟨negative, code, rfl⟩ := exists_nan_of_not_isNumber right
    cases negative with
    | false => exact .positiveNan code left
    | true =>
      have above := (totalPlace_bounds left).1
      have behind := code.fraction_pos
      rw [totalPlace_negativeNan] at ordered
      omega
  case false.true =>
    obtain ⟨negative, code, rfl⟩ := exists_nan_of_not_isNumber left
    cases negative with
    | true => exact .negativeNan code right
    | false =>
      have below := (totalPlace_bounds right).2
      have behind := code.fraction_pos
      rw [totalPlace_positiveNan] at ordered
      omega

end Places

end Binary64

end Underwriting
