import Mathlib.Data.List.Forall2
import Underwriting.Proofs.Evaluation.Scoring
import Underwriting.Proofs.Number.Finite

/-! # Bounds of the score

Whatever a configuration holds, the score is a number that is not negative. If the configuration is
sound the score is also finite and not above the positive part of the base score. Then failing more
never helps: of two lists of outcomes of the same rules, the one that fails wherever the other does
has no higher score, and it opens no program that the other leaves closed.
-/

namespace Underwriting

/-- The outcome is one of the same rule as the other, and a failure if the other is. -/
structure RuleOutcome.NoBetterThan (outcome other : RuleOutcome) : Prop where
  ruleId : outcome.ruleId = other.ruleId
  failed : other.passed = false → outcome.passed = false

/-- The score is a finite number that is not negative. -/
structure ScoreCard.IsRegular (card : ScoreCard) : Prop where
  nonneg : card.fitScore.IsNonneg
  finite : card.fitScore.isFinite = true

namespace ScoringConfig

variable {config : ScoringConfig}

theorem isNonneg_score (config : ScoringConfig) (soft : List RuleOutcome) :
    (config.score soft).fitScore.IsNonneg := by
  obtain ⟨number, is⟩ := config.exists_fitScore_eq_clampAtZero soft
  rw [is]
  exact number.isNonneg_clampAtZero

section Sound

variable (sound : config.IsSound) {card lower higher : ScoreCard} {outcome other : RuleOutcome}
include sound

/-- A charge leaves the score regular, even where the points overflow, and does not raise it. -/
theorem isRegular_charge (regular : card.IsRegular) (outcome : RuleOutcome) :
    (card.charge config outcome).IsRegular ∧
      (card.charge config outcome).fitScore.atMost card.fitScore = true := by
  cases costs : config.costs outcome with
  | true =>
    rw [charge_of_costs costs]
    have taken := (isNonneg_pointsFor sound outcome.ruleId).1
    have nonneg := Binary64.isNonneg_clampAtZero (card.fitScore - config.pointsFor outcome.ruleId)
    have below := Binary64.clampAtZero_sub_atMost regular.nonneg regular.finite taken
    exact ⟨⟨nonneg, Binary64.isFinite_of_atMost nonneg below regular.finite⟩, below⟩
  | false =>
    rw [charge_of_not_costs costs]
    exact ⟨regular, regular.nonneg.atMost_self⟩

theorem isRegular_start : ScoreCard.IsRegular ⟨config.baseScore.clampAtZero, []⟩ :=
  ⟨Binary64.isNonneg_clampAtZero _, Binary64.isFinite_clampAtZero sound.base⟩

/-- The score is regular and at most what it starts from. -/
theorem isRegular_score (soft : List RuleOutcome) : (config.score soft).IsRegular ∧
    (config.score soft).fitScore.atMost config.baseScore.clampAtZero = true := by
  have start := isRegular_start sound
  refine score_induction (motive := fun card => card.IsRegular ∧
    card.fitScore.atMost config.baseScore.clampAtZero = true)
    ⟨start, start.nonneg.atMost_self⟩ ?_ soft
  rintro card outcome ⟨regular, below⟩
  obtain ⟨after, lowered⟩ := isRegular_charge sound regular outcome
  exact ⟨after, Binary64.atMost_trans lowered below⟩

/-- A charge keeps the order of two scores if the lower one is charged with no better outcome. -/
theorem charge_atMost_charge (regular : lower.IsRegular) (alsoRegular : higher.IsRegular)
    (order : lower.fitScore.atMost higher.fitScore = true) (worse : outcome.NoBetterThan other) :
    (lower.charge config outcome).fitScore.atMost (higher.charge config other).fitScore = true := by
  cases costs : config.costs other with
  | true =>
    obtain ⟨failed, counts⟩ := costs_iff.mp costs
    rw [← worse.ruleId] at counts
    have alsoCosts : config.costs outcome = true := costs_iff.mpr ⟨worse.failed failed, counts⟩
    rw [charge_of_costs costs, charge_of_costs alsoCosts, worse.ruleId]
    exact Binary64.clampAtZero_sub_mono regular.finite alsoRegular.finite order
      (isNonneg_pointsFor sound other.ruleId).1
  | false =>
    rw [charge_of_not_costs costs]
    exact Binary64.atMost_trans (isRegular_charge sound regular outcome).2 order

/-- Of two lists of outcomes of the same rules the one that is nowhere better has no higher
score. -/
theorem score_atMost_score {soft others : List RuleOutcome}
    (worse : List.Forall₂ RuleOutcome.NoBetterThan soft others) :
    (config.score soft).fitScore.atMost (config.score others).fitScore = true := by
  -- The two runs start from one score and go on from two, of which one is not above the other.
  have charged (lower higher : ScoreCard) (regular : lower.IsRegular)
      (alsoRegular : higher.IsRegular) (order : lower.fitScore.atMost higher.fitScore = true) :
      (soft.foldl (ScoreCard.charge config) lower).fitScore.atMost
        (others.foldl (ScoreCard.charge config) higher).fitScore = true := by
    induction worse generalizing lower higher with
    | nil => exact order
    | cons head _ ih =>
      exact ih _ _ (isRegular_charge sound regular _).1 (isRegular_charge sound alsoRegular _).1
        (charge_atMost_charge sound regular alsoRegular order head)
  have start := isRegular_start sound
  exact charged _ _ start start (start.nonneg.atMost_self)

end Sound

/-- The applicant is not eligible with more failures and a lower score than one who is not. -/
theorem isEligible_of_isEligible {hard others : List RuleOutcome} {score lower : Binary64}
    (fails : (∃ outcome ∈ hard, outcome.passed = false) → ∃ outcome ∈ others, outcome.passed = false)
    (order : lower.atMost score = true) (eligible : config.isEligible others lower = true) :
    config.isEligible hard score = true := by
  rw [isEligible, Bool.and_eq_true, List.all_eq_true] at eligible ⊢
  obtain ⟨allPassed, reaches⟩ := eligible
  refine ⟨fun outcome member => ?_, Binary64.atMost_trans reaches order⟩
  rw [← Bool.not_eq_false]
  intro failed
  obtain ⟨counterpart, listed, alsoFailed⟩ := fails ⟨outcome, member, failed⟩
  rw [allPassed counterpart listed] at alsoFailed
  cases alsoFailed

/-- The score is never negative nor a non-number. For a configuration without defects it is finite,
at most the positive part of the base score, and no higher where more rules fail; and where a hard
rule fails again if one does, the applicant is not eligible with more failures either. -/
theorem score_bounded_antitone (config : ScoringConfig) (soft : List RuleOutcome) :
    (config.score soft).fitScore.isNumber = true ∧ (config.score soft).fitScore.below 0 = false ∧
      (config.defect? = none →
        (config.score soft).fitScore.isFinite = true ∧
        (config.score soft).fitScore.atMost config.baseScore.clampAtZero = true ∧
        ∀ others, List.Forall₂ RuleOutcome.NoBetterThan others soft →
          (config.score others).fitScore.atMost (config.score soft).fitScore = true ∧
          ∀ hard otherHard : List RuleOutcome,
            ((∃ outcome ∈ hard, outcome.passed = false) →
              ∃ outcome ∈ otherHard, outcome.passed = false) →
            config.isEligible otherHard (config.score others).fitScore = true →
            config.isEligible hard (config.score soft).fitScore = true) := by
  have nonneg := config.isNonneg_score soft
  refine ⟨nonneg.isNumber, nonneg.not_below_zero, fun accepted => ?_⟩
  have sound := defect?_eq_none_iff.mp accepted
  obtain ⟨regular, below⟩ := isRegular_score sound soft
  refine ⟨regular.finite, below, fun others worse => ?_⟩
  have order := score_atMost_score sound worse
  exact ⟨order, fun _ _ fails eligible => isEligible_of_isEligible fails order eligible⟩

/-- A configuration in which the deductions of one rule are too great for their sum to be finite. -/
def overflowing : ScoringConfig :=
  ⟨100, 0, [⟨"fico", 30⟩, ⟨"paynet", .finite false ⟨Magnitude.rankLimit - 1, by decide⟩⟩,
    ⟨"paynet", .finite false ⟨Magnitude.rankLimit - 1, by decide⟩⟩]⟩

theorem score_bounded_antitone_overflowing :
    overflowing.defect? = none ∧ overflowing.pointsFor "paynet" = .infinite false ∧
      (overflowing.score [.sample "fico" false, .sample "paynet" false]).fitScore.atMost
        (overflowing.score [.sample "fico" false, .sample "paynet" true]).fitScore = true ∧
      overflowing.isEligible [.sample "amount" true]
        (overflowing.score [.sample "fico" false, .sample "paynet" true]).fitScore = true := by
  have accepted : overflowing.defect? = none := by decide +kernel
  have worse : List.Forall₂ RuleOutcome.NoBetterThan
      [.sample "fico" false, .sample "paynet" false]
      [.sample "fico" false, .sample "paynet" true] :=
    .cons ⟨rfl, id⟩ (.cons ⟨rfl, fun _ => rfl⟩ .nil)
  have eligible : overflowing.isEligible [.sample "amount" true]
      (overflowing.score [.sample "fico" false, .sample "paynet" false]).fitScore = true := by
    decide +kernel
  obtain ⟨-, -, bounds⟩ := score_bounded_antitone overflowing
    [.sample "fico" false, .sample "paynet" true]
  obtain ⟨order, keeps⟩ := (bounds accepted).2.2 _ worse
  exact ⟨accepted, by decide +kernel, order, keeps _ _ id eligible⟩

end ScoringConfig

end Underwriting
