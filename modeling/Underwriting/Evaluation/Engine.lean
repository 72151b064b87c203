import Underwriting.Evaluation.Rules
import Underwriting.Evaluation.Score

/-!
# The evaluation engine

Applies a compiled policy to an application: hard rules, soft rules, score, eligibility.
-/

namespace Underwriting

/-- The messages of the outcomes that failed. -/
def failureMessages (outcomes : List RuleOutcome) : List String :=
  outcomes.filterMap fun outcome => if outcome.passed then none else outcome.message?

/-- The result of a program's policy for an application. -/
def CompiledPolicy.evaluate (policy : CompiledPolicy) (program : LenderProgram)
    (application : Application) : MatchResult :=
  let hard := policy.hardRules.evaluate application
  let soft := policy.softRules.evaluate application
  let card := policy.scoring.score soft.outcomes
  { lender := program.lender
    program := program.id
    eligible := policy.scoring.isEligible hard.outcomes card.fitScore
    fitScore := card.fitScore
    reasons := failureMessages hard.outcomes ++ card.reasons
    ruleResults := ⟨hard.outcomes, soft.outcomes, hard.passed, soft.passed⟩
    fault? := none }

end Underwriting
