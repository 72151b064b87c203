import Underwriting.Policy.Compiled

/-! # Defects of a scoring configuration

The scores of a configuration and the points of its deductions are finite, and no deduction is
negative. The first thing that is otherwise is the defect that a policy is refused for.
-/

namespace Underwriting

/-- The points of a deduction are a finite number that is not negative. -/
def Deduction.IsSound (deduction : Deduction) : Prop :=
  deduction.points.isFinite = true ∧ deduction.points.below 0 = false

namespace ScoringConfig

variable {config : ScoringConfig}

/-- The scores of a configuration are finite, and all its deductions are sound. -/
structure IsSound (config : ScoringConfig) : Prop where
  base : config.baseScore.isFinite = true
  least : config.minAcceptScore.isFinite = true
  deductions : ∀ deduction ∈ config.deductions, deduction.IsSound

/-- The first thing wrong with a configuration. -/
inductive HasDefect (config : ScoringConfig) : ScoringDefect → Prop
  | scoreNotFinite : config.baseScore.isFinite = false ∨ config.minAcceptScore.isFinite = false →
      HasDefect config .scoreNotFinite
  | badDeduction {before after : List Deduction} {deduction : Deduction} :
      config.baseScore.isFinite = true → config.minAcceptScore.isFinite = true →
      config.deductions = before ++ deduction :: after →
      (∀ earlier ∈ before, earlier.IsSound) → ¬ deduction.IsSound →
      HasDefect config (.badDeduction deduction.ruleId)

private theorem isSound_iff (deduction : Deduction) :
    (!deduction.points.isFinite || deduction.points.below 0) = false ↔ deduction.IsSound := by
  simp only [Deduction.IsSound, Bool.or_eq_false_iff, Bool.not_eq_false']

theorem defect?_eq_none_iff : config.defect? = none ↔ config.IsSound := by
  constructor
  · intro nothing
    unfold defect? at nothing
    split at nothing
    case isTrue => cases nothing
    case isFalse finite =>
      split at nothing
      case h_1 => cases nothing
      case h_2 allSound =>
        simp only [Bool.not_eq_true, Bool.or_eq_false_iff, Bool.not_eq_false'] at finite
        refine ⟨finite.1, finite.2, fun deduction member => (isSound_iff deduction).mp ?_⟩
        simpa using List.find?_eq_none.mp allSound deduction member
  · intro sound
    have none : config.deductions.find? (fun deduction =>
        !deduction.points.isFinite || deduction.points.below 0) = none :=
      List.find?_eq_none.mpr fun deduction member => by
        rw [Bool.not_eq_true, isSound_iff]
        exact sound.deductions deduction member
    simp only [defect?, sound.base, sound.least, none, Bool.not_true, Bool.or_self,
      Bool.false_eq_true, ↓reduceIte]

theorem defect?_eq_some_iff {defect : ScoringDefect} :
    config.defect? = some defect ↔ config.HasDefect defect := by
  constructor
  · intro found
    unfold defect? at found
    split at found
    case isTrue infinite =>
      rw [← Option.some.inj found]
      simp only [Bool.or_eq_true, Bool.not_eq_true'] at infinite
      exact .scoreNotFinite infinite
    case isFalse finite =>
      simp only [Bool.not_eq_true, Bool.or_eq_false_iff, Bool.not_eq_false'] at finite
      split at found
      case h_1 deduction first =>
        rw [← Option.some.inj found]
        obtain ⟨bad, before, after, listed, sound⟩ := List.find?_eq_some_iff_append.mp first
        refine .badDeduction finite.1 finite.2 listed (fun earlier member => ?_) ?_
        · exact (isSound_iff earlier).mp (by simpa using sound earlier member)
        · rw [← isSound_iff, bad]
          exact Bool.noConfusion
      case h_2 => cases found
  · intro has
    cases has with
    | scoreNotFinite infinite =>
      have refused : (!config.baseScore.isFinite || !config.minAcceptScore.isFinite) = true := by
        simpa only [Bool.or_eq_true, Bool.not_eq_true'] using infinite
      simp only [defect?, refused, ↓reduceIte]
    | @badDeduction before after deduction base least listed sound bad =>
      have first : config.deductions.find? (fun deduction =>
          !deduction.points.isFinite || deduction.points.below 0) = some deduction := by
        refine List.find?_eq_some_iff_append.mpr
          ⟨?_, before, after, listed, fun earlier member => ?_⟩
        · rwa [← Bool.not_eq_false, isSound_iff]
        · rw [Bool.not_eq_true', isSound_iff]
          exact sound earlier member
      simp only [defect?, base, least, first, Bool.not_true, Bool.or_self, Bool.false_eq_true,
        ↓reduceIte]

end ScoringConfig

end Underwriting
