import Mathlib.Data.List.Induction
import Underwriting.Evaluation.Score
import Underwriting.Proofs.Number.Positive
import Underwriting.Proofs.Policy.ScoringDefects

/-! # What a failure costs

An outcome costs points if its rule failed and the deductions with the rule's id amount to
something. Such an outcome lowers the score and gives its message as a reason, every other outcome
leaves both alone. Deductions that are not negative never cancel out, so they amount to something
exactly if one of them does.
-/

namespace Underwriting

namespace ScoringConfig

/-- The deductions of an id, in the order in which they are listed. -/
def deductionsFor (config : ScoringConfig) (ruleId : String) : List Deduction :=
  config.deductions.filter (·.ruleId == ruleId)

/-- The rule failed, and the points of its deductions do not amount to zero. -/
def costs (config : ScoringConfig) (outcome : RuleOutcome) : Bool :=
  !outcome.passed && !(config.pointsFor outcome.ruleId).sameValue 0

variable {config : ScoringConfig}

theorem mem_deductionsFor_iff {ruleId : String} {deduction : Deduction} :
    deduction ∈ config.deductionsFor ruleId ↔
      deduction ∈ config.deductions ∧ deduction.ruleId = ruleId := by
  rw [deductionsFor, List.mem_filter, beq_iff_eq]

theorem costs_iff {outcome : RuleOutcome} : config.costs outcome = true ↔
    outcome.passed = false ∧ (config.pointsFor outcome.ruleId).sameValue 0 = false := by
  rw [costs, Bool.and_eq_true, Bool.not_eq_true', Bool.not_eq_true']

section Points

/-- A deduction is among those of its own id, as often as it is listed, and of no other. -/
theorem count_deductionsFor (config : ScoringConfig) (ruleId : String) (deduction : Deduction) :
    (config.deductionsFor ruleId).count deduction =
      if deduction.ruleId = ruleId then config.deductions.count deduction else 0 := by
  split
  case isTrue same =>
    exact List.count_filter (beq_iff_eq.mpr same)
  case isFalse other =>
    exact List.count_eq_zero.mpr fun member => other (mem_deductionsFor_iff.mp member).2

theorem isNonneg_of_mem_deductionsFor (sound : config.IsSound) {ruleId : String}
    {deduction : Deduction} (member : deduction ∈ config.deductionsFor ruleId) :
    deduction.points.IsNonneg := by
  obtain ⟨finite, above⟩ := sound.deductions deduction (mem_deductionsFor_iff.mp member).1
  exact Binary64.isNonneg_of_not_below finite above

/-- Sound deductions of an id do not amount to less than zero, and to something exactly if one of
them does. -/
theorem isNonneg_pointsFor (sound : config.IsSound) (ruleId : String) :
    (config.pointsFor ruleId).IsNonneg ∧ ((config.pointsFor ruleId).IsPositive ↔
      ∃ deduction ∈ config.deductionsFor ruleId, deduction.points.IsPositive) := by
  have all : ∀ points ∈ (config.deductionsFor ruleId).map (·.points), points.IsNonneg := by
    intro points among
    obtain ⟨deduction, member, rfl⟩ := List.mem_map.mp among
    exact isNonneg_of_mem_deductionsFor sound member
  obtain ⟨total, positive⟩ := Binary64.isNonneg_foldl all Binary64.isNonneg_zero
  refine ⟨total, positive.trans ?_⟩
  simp only [or_iff_right Binary64.not_isPositive_zero, List.mem_map, exists_exists_and_eq_and]

theorem pointsFor_ne_zero_iff (sound : config.IsSound) (ruleId : String) :
    (config.pointsFor ruleId).sameValue 0 = false ↔
      ∃ deduction ∈ config.deductionsFor ruleId, deduction.points.sameValue 0 = false := by
  obtain ⟨total, positive⟩ := isNonneg_pointsFor sound ruleId
  rw [← Binary64.isPositive_iff_of_isNonneg total, positive]
  refine exists_congr fun deduction => and_congr_right fun member => ?_
  exact Binary64.isPositive_iff_of_isNonneg (isNonneg_of_mem_deductionsFor sound member)

end Points

section Charging

variable {card : ScoreCard} {outcome : RuleOutcome}

theorem charge_of_costs (costs : config.costs outcome = true) (card : ScoreCard) :
    card.charge config outcome =
      ⟨(card.fitScore - config.pointsFor outcome.ruleId).clampAtZero,
        card.reasons ++ outcome.message?.toList⟩ := by
  obtain ⟨failed, counts⟩ := costs_iff.mp costs
  simp only [ScoreCard.charge, failed, counts, Bool.or_self, Bool.false_eq_true, ↓reduceIte]

theorem charge_of_not_costs (free : config.costs outcome = false) (card : ScoreCard) :
    card.charge config outcome = card := by
  rw [costs, ← Bool.not_or, Bool.not_eq_false'] at free
  simp only [ScoreCard.charge, free, ↓reduceIte]

/-- What holds of the score without outcomes, and of a score after an outcome if it held before,
holds of every score. -/
theorem score_induction {motive : ScoreCard → Prop}
    (start : motive ⟨config.baseScore.clampAtZero, []⟩)
    (step : ∀ card outcome, motive card → motive (card.charge config outcome))
    (soft : List RuleOutcome) : motive (config.score soft) := by
  have charged (card : ScoreCard) (holds : motive card) :
      motive (soft.foldl (ScoreCard.charge config) card) := by
    induction soft generalizing card with
    | nil => exact holds
    | cons outcome rest ih => exact ih _ (step card outcome holds)
  exact charged _ start

theorem score_concat (config : ScoringConfig) (before : List RuleOutcome) (outcome : RuleOutcome) :
    config.score (before ++ [outcome]) = (config.score before).charge config outcome := by
  simp only [score, List.foldl_append, List.foldl_cons, List.foldl_nil]

/-- Whatever is taken off a score, it is the positive part of a number. -/
theorem exists_fitScore_eq_clampAtZero (config : ScoringConfig) (soft : List RuleOutcome) :
    ∃ number : Binary64, (config.score soft).fitScore = number.clampAtZero := by
  refine score_induction
    (motive := fun card => ∃ number : Binary64, card.fitScore = number.clampAtZero) ⟨_, rfl⟩ ?_ soft
  intro card outcome before
  cases costs : config.costs outcome with
  | true => exact ⟨_, congrArg ScoreCard.fitScore (charge_of_costs costs card)⟩
  | false => rwa [charge_of_not_costs costs]

/-- Where no outcome costs points, the score is the one without outcomes. -/
theorem score_of_not_costs {soft : List RuleOutcome}
    (free : ∀ outcome ∈ soft, config.costs outcome = false) :
    config.score soft = ⟨config.baseScore.clampAtZero, []⟩ := by
  induction soft using List.reverseRecOn with
  | nil => rfl
  | append_singleton before outcome ih =>
    rw [List.forall_mem_append, List.forall_mem_singleton] at free
    rw [score_concat, ih free.1, charge_of_not_costs free.2]

end Charging

section Reasons

/-- A failure costs the points of the deductions with its id, down to a score of zero, and gives its
message as a reason. -/
structure Charges (config : ScoringConfig) (before : List RuleOutcome) (outcome : RuleOutcome) :
    Prop where
  fitScore : (config.score (before ++ [outcome])).fitScore =
    ((config.score before).fitScore -
      ((config.deductionsFor outcome.ruleId).map (·.points)).foldl (· + ·) 0).clampAtZero
  reasons : (config.score (before ++ [outcome])).reasons =
    (config.score before).reasons ++ outcome.message?.toList

theorem charges_of_costs {outcome : RuleOutcome} (costs : config.costs outcome = true)
    (before : List RuleOutcome) : config.Charges before outcome := by
  constructor
  · rw [score_concat, charge_of_costs costs]
    rfl
  · rw [score_concat, charge_of_costs costs]

/-- The reasons are the messages of the outcomes that cost points, in their order. -/
theorem reasons_score (config : ScoringConfig) (soft : List RuleOutcome) :
    (config.score soft).reasons = (soft.filter config.costs).filterMap (·.message?) := by
  induction soft using List.reverseRecOn with
  | nil => rfl
  | append_singleton before outcome ih =>
    rw [score_concat, List.filter_append, List.filterMap_append, ← ih]
    cases costs : config.costs outcome with
    | true =>
      rw [charge_of_costs costs, List.filter_cons_of_pos costs, List.filterMap_cons]
      cases outcome.message? <;> rfl
    | false =>
      rw [charge_of_not_costs costs, List.filter_cons_of_neg (Bool.eq_false_iff.mp costs)]
      exact (List.append_nil _).symm

/-- The message of an outcome that costs points is among the reasons. -/
theorem message_mem_reasons {soft : List RuleOutcome} {outcome : RuleOutcome}
    (listed : outcome ∈ soft) (costs : config.costs outcome = true) {message : String}
    (stated : outcome.message? = some message) : message ∈ (config.score soft).reasons := by
  rw [reasons_score]
  exact List.mem_filterMap.mpr ⟨outcome, List.mem_filter.mpr ⟨listed, costs⟩, stated⟩

end Reasons

end ScoringConfig

/-- An outcome of a sample rule, with a message if the rule failed. -/
def RuleOutcome.sample (ruleId : String) (passed : Bool) : RuleOutcome :=
  ⟨ruleId, "guarantors[0].fico_score", passed, if passed then none else some (ruleId ++ " failed")⟩

end Underwriting
