import Underwriting.Proofs.Evaluation.Reporting
import Underwriting.Proofs.Evaluation.Scoring
import Underwriting.Proofs.Number.Finite

/-! # What the reasons explain

The reasons of a result are the messages of the hard rules that failed, and after them those of the
soft rules that failed and are charged for. A soft rule is charged for if one of the deductions with
its id has points; that these could add up to zero is ruled out when a policy is compiled. So a
declined applicant who is given no reason has passed every hard rule and lost no points: it is the
base score itself that is too low.
-/

namespace Underwriting

namespace ScoringConfig

/-- The rule failed, and a deduction with its id has points. -/
def isCharged (config : ScoringConfig) (outcome : RuleOutcome) : Bool :=
  !outcome.passed && config.deductions.any fun deduction =>
    deduction.ruleId == outcome.ruleId && !deduction.points.sameValue 0

variable {config : ScoringConfig}

theorem isCharged_iff {outcome : RuleOutcome} : config.isCharged outcome = true ↔
    outcome.passed = false ∧ ∃ deduction ∈ config.deductions,
      deduction.ruleId = outcome.ruleId ∧ deduction.points.sameValue 0 = false := by
  simp only [isCharged, Bool.and_eq_true, Bool.not_eq_true', List.any_eq_true, beq_iff_eq]

/-- The failures that cost points are those that are charged for. -/
theorem costs_eq_isCharged (sound : config.IsSound) : config.costs = config.isCharged := by
  funext outcome
  rw [Bool.eq_iff_iff, costs_iff, isCharged_iff, pointsFor_ne_zero_iff sound]
  simp only [mem_deductionsFor_iff, and_assoc]

end ScoringConfig

section Messages

variable {outcomes : List RuleOutcome}

/-- Where every outcome has a message, no outcome is lost among the messages. -/
private theorem map_some_messages
    (stated : ∀ outcome ∈ outcomes, outcome.message?.isSome = true) :
    (outcomes.filterMap (·.message?)).map some = outcomes.map (·.message?) := by
  rw [List.map_filterMap_some_eq_filter_map_isSome, List.filter_eq_self]
  intro message member
  obtain ⟨outcome, among, rfl⟩ := List.mem_map.mp member
  exact stated outcome among

theorem failureMessages_eq (outcomes : List RuleOutcome) :
    failureMessages outcomes = (outcomes.filter (!·.passed)).filterMap (·.message?) := by
  rw [failureMessages, List.filterMap_filter]
  refine List.filterMap_congr fun outcome _ => ?_
  cases outcome.passed <;> rfl

/-- A rule of a tree that fails says why. -/
theorem RuleTree.isSome_message?_of_failed {tree : RuleTree Rule} {application : Application}
    {outcome : RuleOutcome} (member : outcome ∈ (tree.evaluate application).outcomes)
    (failed : outcome.passed = false) : outcome.message?.isSome = true := by
  rw [RuleTree.outcomes_evaluate] at member
  obtain ⟨rule, -, rfl⟩ := List.mem_map.mp member
  rw [Rule.isSome_message?_evaluate, failed, Bool.not_false]

end Messages

namespace CompiledPolicy

variable {policy : CompiledPolicy}

/-- Every reason is the message of one outcome, and each outcome that gives a reason gives one. -/
theorem reasons_evaluate (sound : policy.scoring.IsSound) (program : LenderProgram)
    (application : Application) :
    (policy.evaluate program application).reasons.map some =
      ((policy.evaluate program application).ruleResults.hard.filter (!·.passed) ++
        (policy.evaluate program application).ruleResults.soft.filter
          policy.scoring.isCharged).map (·.message?) := by
  have hard : ∀ outcome ∈ (policy.hardRules.evaluate application).outcomes.filter (!·.passed),
      outcome.message?.isSome = true := by
    intro outcome member
    obtain ⟨listed, failed⟩ := List.mem_filter.mp member
    exact RuleTree.isSome_message?_of_failed listed ((Bool.not_eq_true' _).mp failed)
  have soft : ∀ outcome ∈ (policy.softRules.evaluate application).outcomes.filter
      policy.scoring.isCharged, outcome.message?.isSome = true := by
    intro outcome member
    obtain ⟨listed, charged⟩ := List.mem_filter.mp member
    exact RuleTree.isSome_message?_of_failed listed (ScoringConfig.isCharged_iff.mp charged).1
  calc (policy.evaluate program application).reasons.map some
      = (failureMessages (policy.hardRules.evaluate application).outcomes).map some ++
          (policy.scoring.score (policy.softRules.evaluate application).outcomes).reasons.map
            some := List.map_append
    _ = _ := by
      rw [failureMessages_eq, map_some_messages hard, ScoringConfig.reasons_score,
        ScoringConfig.costs_eq_isCharged sound, map_some_messages soft, ← List.map_append]
      rfl

/-- Where nothing is charged for, the score is the base score, or zero if that is negative. -/
theorem fitScore_evaluate_of_not_charged (sound : policy.scoring.IsSound) {program : LenderProgram}
    {application : Application}
    (free : ∀ outcome ∈ (policy.evaluate program application).ruleResults.soft,
      policy.scoring.isCharged outcome = false) :
    (policy.evaluate program application).fitScore = policy.scoring.baseScore.clampAtZero := by
  rw [← ScoringConfig.costs_eq_isCharged sound] at free
  exact congrArg ScoreCard.fitScore (ScoringConfig.score_of_not_costs free)

/-- An applicant is declined without a reason exactly if the base score is too low. -/
theorem declined_without_reason_iff (sound : policy.scoring.IsSound) (program : LenderProgram)
    (application : Application) :
    (policy.evaluate program application).eligible = false ∧
        (policy.evaluate program application).reasons = [] ↔
      (∀ outcome ∈ (policy.evaluate program application).ruleResults.hard,
        outcome.passed = true) ∧
      (∀ outcome ∈ (policy.evaluate program application).ruleResults.soft,
        policy.scoring.isCharged outcome = false) ∧
      policy.scoring.baseScore.clampAtZero.below policy.scoring.minAcceptScore = true := by
  have decided := policy.eligible_evaluate_iff program application
  have explained : (policy.evaluate program application).reasons = [] ↔
      (∀ outcome ∈ (policy.evaluate program application).ruleResults.hard,
        outcome.passed = true) ∧
      ∀ outcome ∈ (policy.evaluate program application).ruleResults.soft,
        policy.scoring.isCharged outcome = false := by
    rw [← List.map_eq_nil_iff (f := some), reasons_evaluate sound, List.map_eq_nil_iff,
      List.append_eq_nil_iff, List.filter_eq_nil_iff, List.filter_eq_nil_iff]
    simp only [Bool.not_eq_true', Bool.not_eq_false, Bool.not_eq_true]
  have least : policy.scoring.minAcceptScore.atMost policy.scoring.baseScore.clampAtZero =
      !policy.scoring.baseScore.clampAtZero.below policy.scoring.minAcceptScore :=
    Binary64.atMost_eq_not_below sound.least (Binary64.isFinite_clampAtZero sound.base)
  rw [explained, ← Bool.not_eq_true, decided]
  constructor
  · rintro ⟨declined, passed, free⟩
    refine ⟨passed, free, ?_⟩
    have missed := not_and.mp declined passed
    rwa [fitScore_evaluate_of_not_charged sound free, least, Bool.not_eq_true',
      Bool.not_eq_false] at missed
  · rintro ⟨passed, free, low⟩
    refine ⟨fun ⟨_, reached⟩ => ?_, passed, free⟩
    rw [fitScore_evaluate_of_not_charged sound free, least, low] at reached
    cases reached

end CompiledPolicy

namespace Policy

variable {policy : Policy} {compiled : CompiledPolicy}

/-- The reasons are the messages of the hard rules that failed and of the soft rules that are
charged for, so an eligible applicant is given only the latter. An applicant is declined without a
reason exactly if every hard rule passed, no rule is charged for and the base score is too low. -/
theorem reasons_explain_decision (success : policy.compile = .ok compiled)
    (program : LenderProgram) (application : Application) :
    let result := compiled.evaluate program application
    result.reasons.map some = (result.ruleResults.hard.filter (!·.passed) ++
        result.ruleResults.soft.filter policy.scoring.isCharged).map (·.message?) ∧
      (result.eligible = true → result.reasons.map some =
        (result.ruleResults.soft.filter policy.scoring.isCharged).map (·.message?)) ∧
      (result.eligible = false ∧ result.reasons = [] ↔
        (∀ outcome ∈ result.ruleResults.hard, outcome.passed = true) ∧
        (∀ outcome ∈ result.ruleResults.soft, policy.scoring.isCharged outcome = false) ∧
        policy.scoring.baseScore.clampAtZero.below policy.scoring.minAcceptScore = true) := by
  intro result
  have compiles := compilesTo_of_compile success
  have sound : compiled.scoring.IsSound := compiles.scoring ▸ compiles.scores
  have reasons := CompiledPolicy.reasons_evaluate sound program application
  rw [← compiles.scoring]
  refine ⟨reasons, fun eligible => ?_,
    CompiledPolicy.declined_without_reason_iff sound program application⟩
  have passed := ((compiled.eligible_evaluate_iff program application).mp eligible).1
  have noneFailed : result.ruleResults.hard.filter (!·.passed) = [] :=
    List.filter_eq_nil_iff.mpr fun outcome member => by
      rw [passed outcome member]
      exact Bool.false_ne_true
  rw [reasons, noneFailed, List.nil_append]

/-- A policy with two hard and three soft rules, all about the credit score. One soft rule has a
deduction without points, and the base score is too low for anyone. -/
def graded : Policy :=
  ⟨⟨1⟩, 1, true,
    ⟨.all, [Seed.minFico "floor" 600 .hard, Seed.minFico "top" 800 .hard], []⟩,
    ⟨.all, [Seed.minFico "good" 650 .soft, Seed.minFico "prime" 700 .soft,
      Seed.minFico "best" 750 .soft], []⟩,
    ⟨50, 60, [⟨"prime", 30⟩, ⟨"good", 20⟩, ⟨"best", 0⟩]⟩⟩

/-- What a policy answers to an applicant with a credit score. -/
def gradedResult (compiled : CompiledPolicy) (fico : UInt16) : MatchResult :=
  compiled.evaluate ⟨⟨1⟩, ⟨1⟩, "Standard", 10000, 500000, 24, 60⟩ (Seed.application 50000 36 fico)

private theorem compile_graded : graded.compile.toOption.map (fun compiled =>
    (((gradedResult compiled 690).ruleResults.hard.filter (!·.passed) ++
      (gradedResult compiled 690).ruleResults.soft.filter graded.scoring.isCharged).map
        (·.message?),
      (gradedResult compiled 820).ruleResults.hard.all (·.passed),
      (gradedResult compiled 820).ruleResults.soft.any graded.scoring.isCharged)) =
        some ([some "FICO must be 800+", some "FICO must be 700+"], true, false) := by
  decide +kernel

/-- The rule without points gives no reason. An applicant who passes all rules is declined without a
reason. -/
theorem reasons_explain_decision_graded :
    ∃ compiled, graded.compile = .ok compiled ∧
      (gradedResult compiled 690).reasons = ["FICO must be 800+", "FICO must be 700+"] ∧
      (gradedResult compiled 820).eligible = false ∧ (gradedResult compiled 820).reasons = [] := by
  have evaluated := compile_graded
  cases compiles : graded.compile with
  | error error =>
    rw [compiles] at evaluated
    cases evaluated
  | ok compiled =>
    rw [compiles] at evaluated
    obtain ⟨messages, others⟩ := Prod.mk.inj (Option.some.inj evaluated)
    obtain ⟨passed, free⟩ := Prod.mk.inj others
    refine ⟨compiled, rfl, ?_, ?_⟩
    · have reasons : (gradedResult compiled 690).reasons.map some = _ :=
        (reasons_explain_decision compiles _ _).1
      exact (List.map_inj_right fun _ _ => Option.some.inj).mp (reasons.trans messages)
    · refine (reasons_explain_decision compiles _ _).2.2.mpr
        ⟨List.all_eq_true.mp passed, fun outcome member => ?_, ?_⟩
      · rw [← Bool.not_eq_true]
        exact List.any_eq_false.mp free outcome member
      · decide +kernel

end Policy

end Underwriting
