import Mathlib.Algebra.Order.BigOperators.Group.List
import Mathlib.Algebra.Order.Group.Nat
import Underwriting.Proofs.Evaluation.Scoring
import Underwriting.Proofs.Number.Whole

/-! # Scores that are whole numbers

If the base score and all points are integers that fit in 53 bits, nothing is rounded. Points are
taken off outcome by outcome, and the score is kept from falling below zero each time. Once it is
zero it stays zero, so the outcome is what it would be if all points were taken off at once, in
whichever order the outcomes and the deductions are listed.
-/

namespace Underwriting

namespace ScoringConfig

/-- The base score is an integer and the points of the deductions are natural numbers, so small that
no arithmetic on them is rounded. -/
structure IsWhole (config : ScoringConfig) (base : Int) (points : Deduction → Nat) : Prop where
  baseScore : config.baseScore.toInt? = some base
  baseFits : base.natAbs < 2 ^ 53
  deductions : ∀ deduction ∈ config.deductions,
    deduction.points.toInt? = some (points deduction : Int)
  pointsFit : (config.deductions.map points).sum < 2 ^ 53

/-- The points of all deductions with an id. -/
def wholePointsFor (config : ScoringConfig) (points : Deduction → Nat) (ruleId : String) : Nat :=
  ((config.deductionsFor ruleId).map points).sum

/-- The points of the outcomes that failed, as often as they are listed. -/
def charged (config : ScoringConfig) (points : Deduction → Nat) (soft : List RuleOutcome) : Nat :=
  ((soft.filter fun outcome => !outcome.passed).map fun outcome =>
    config.wholePointsFor points outcome.ruleId).sum

section Whole

variable {config other : ScoringConfig} {base : Int} {points : Deduction → Nat}
  {soft others : List RuleOutcome}

theorem charged_concat (config : ScoringConfig) (points : Deduction → Nat)
    (before : List RuleOutcome) (outcome : RuleOutcome) :
    config.charged points (before ++ [outcome]) = config.charged points before +
      if outcome.passed then 0 else config.wholePointsFor points outcome.ruleId := by
  rw [charged, charged, List.filter_append, List.map_append, List.sum_append_nat]
  cases passed : outcome.passed <;> simp [passed]

theorem IsWhole.wholePointsFor_lt (whole : config.IsWhole base points) (ruleId : String) :
    config.wholePointsFor points ruleId < 2 ^ 53 := by
  refine Nat.lt_of_le_of_lt ?_ whole.pointsFit
  exact (List.filter_sublist.map points).sum_le_sum fun _ _ => Nat.zero_le _

/-- The points of an id are added up without rounding. -/
theorem IsWhole.toInt?_pointsFor (whole : config.IsWhole base points) (ruleId : String) :
    (config.pointsFor ruleId).toInt? = some (config.wholePointsFor points ruleId : Int) := by
  have nothing : Binary64.toInt? 0 = some ((0 : Nat) : Int) := by decide +kernel
  have fits := whole.wholePointsFor_lt ruleId
  rw [← Nat.zero_add (config.wholePointsFor points ruleId)] at fits ⊢
  refine Binary64.toInt?_foldl (fun deduction member => ?_) nothing fits
  exact whole.deductions deduction (mem_deductionsFor_iff.mp member).1

/-- The score after some outcomes is the base score without their points, or zero. -/
theorem IsWhole.toInt?_score (whole : config.IsWhole base points) (soft : List RuleOutcome) :
    (config.score soft).fitScore.toInt? =
      some (max 0 (max 0 base - config.charged points soft)) := by
  induction soft using List.reverseRecOn with
  | nil =>
    have start := Binary64.toInt?_clampAtZero whole.baseScore
    rw [show max 0 (max 0 base - config.charged points []) = max 0 base by simp [charged]]
    exact start
  | append_singleton before outcome ih =>
    have taken := whole.toInt?_pointsFor outcome.ruleId
    have fits := whole.wholePointsFor_lt outcome.ruleId
    have small := whole.baseFits
    rw [score_concat, charged_concat]
    cases costs : config.costs outcome with
    | true =>
      obtain ⟨failed, -⟩ := costs_iff.mp costs
      have rest := Binary64.toInt?_clampAtZero (Binary64.toInt?_sub ih taken (by omega))
      rw [charge_of_costs costs, rest, failed]
      simp only [Bool.false_eq_true, ↓reduceIte, Int.natCast_add, Option.some.injEq]
      omega
    | false =>
      have nothing : (if outcome.passed then 0 else
          config.wholePointsFor points outcome.ruleId) = 0 := by
        cases passed : outcome.passed with
        | true => rfl
        | false =>
          have free : (config.pointsFor outcome.ruleId).sameValue 0 = true := by
            rwa [ScoringConfig.costs, passed, Bool.not_false, Bool.true_and,
              Bool.not_eq_false'] at costs
          exact Int.natCast_eq_zero.mp ((Binary64.sameValue_zero_iff taken).mp free)
      rw [charge_of_not_costs costs, ih, nothing, Nat.add_zero]

/-- The points that are charged do not depend on an order. -/
theorem charged_of_perm (reordered : other.deductions.Perm config.deductions)
    (alsoReordered : others.Perm soft) : other.charged points others = config.charged points soft := by
  have pointsFor : other.wholePointsFor points = config.wholePointsFor points := by
    funext ruleId
    exact ((reordered.filter _).map points).sum_nat
  rw [charged, charged, pointsFor]
  exact ((alsoReordered.filter _).map _).sum_nat

theorem IsWhole.of_perm (whole : config.IsWhole base points)
    (sameBase : other.baseScore = config.baseScore)
    (reordered : other.deductions.Perm config.deductions) : other.IsWhole base points where
  baseScore := sameBase ▸ whole.baseScore
  baseFits := whole.baseFits
  deductions deduction member := whole.deductions deduction (reordered.mem_iff.mp member)
  pointsFit := by
    rw [(reordered.map points).sum_nat]
    exact whole.pointsFit

/-- Every score is the positive part of itself, so a score of zero has no sign. -/
theorem clampAtZero_score (config : ScoringConfig) (soft : List RuleOutcome) :
    (config.score soft).fitScore.clampAtZero = (config.score soft).fitScore := by
  obtain ⟨number, is⟩ := config.exists_fitScore_eq_clampAtZero soft
  rw [is, Binary64.clampAtZero_clampAtZero]

/-- Taking points off outcome by outcome leaves what taking off all at once leaves. The score is the
same for every order of the outcomes and of the deductions. -/
theorem score_clamps_once (whole : config.IsWhole base points) (soft : List RuleOutcome) :
    (config.score soft).fitScore.toInt? =
        some (max 0 (max 0 base - config.charged points soft)) ∧
      ∀ (other : ScoringConfig) (others : List RuleOutcome), other.baseScore = config.baseScore →
        other.deductions.Perm config.deductions → others.Perm soft →
        (other.score others).fitScore = (config.score soft).fitScore := by
  refine ⟨whole.toInt?_score soft, fun other others sameBase reordered alsoReordered => ?_⟩
  have score := (whole.of_perm sameBase reordered).toInt?_score others
  rw [charged_of_perm reordered alsoReordered] at score
  calc (other.score others).fitScore
      = (other.score others).fitScore.clampAtZero := (other.clampAtZero_score others).symm
    _ = (config.score soft).fitScore.clampAtZero :=
      Binary64.clampAtZero_eq_of_toInt? score (whole.toInt?_score soft)
    _ = (config.score soft).fitScore := config.clampAtZero_score soft

/-- A configuration that lists two deductions for one rule. -/
def repeated : ScoringConfig := ⟨100, 60, [⟨"fico", 10⟩, ⟨"paynet", 55⟩, ⟨"fico", 15⟩]⟩

/-- The points in that configuration as natural numbers. -/
def repeatedPoints (deduction : Deduction) : Nat :=
  (deduction.points.toInt?.getD 0).toNat

/-- A rule fails twice, so that 105 points are charged; in another order the score is the same. -/
theorem score_clamps_once_repeated :
    repeated.IsWhole 100 repeatedPoints ∧
      repeated.charged repeatedPoints [.sample "fico" false, .sample "paynet" false,
        .sample "years" false, .sample "fico" false] = 105 ∧
      (repeated.score [.sample "fico" false, .sample "paynet" false, .sample "years" false,
        .sample "fico" false]).fitScore.toInt? = some 0 ∧
      (ScoringConfig.score ⟨100, 60, [⟨"paynet", 55⟩, ⟨"fico", 10⟩, ⟨"fico", 15⟩]⟩
        [.sample "paynet" false, .sample "fico" false]).fitScore =
          (repeated.score [.sample "fico" false, .sample "paynet" false]).fitScore := by
  have whole : repeated.IsWhole 100 repeatedPoints := by
    constructor <;> decide +kernel
  have charged : repeated.charged repeatedPoints [.sample "fico" false, .sample "paynet" false,
      .sample "years" false, .sample "fico" false] = 105 := by decide +kernel
  refine ⟨whole, charged, ?_, ?_⟩
  · have score := (score_clamps_once whole [.sample "fico" false, .sample "paynet" false,
      .sample "years" false, .sample "fico" false]).1
    rw [charged] at score
    exact score
  · exact (score_clamps_once whole [.sample "fico" false, .sample "paynet" false]).2 _ _ rfl
      (.swap _ _ _) (.swap _ _ _)

end Whole

end ScoringConfig

end Underwriting
