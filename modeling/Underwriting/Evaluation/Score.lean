import Underwriting.Evaluation.Result

/-!
# Scoring

The score starts from the base score and loses, for every soft rule that failed, the points of all
deductions with the rule's id. It never drops below zero. A failure that costs nothing gives no
reason.
-/

namespace Underwriting

/-- A score and the messages of the failures that cost points. -/
structure ScoreCard where
  fitScore : Binary64
  reasons : List String
deriving DecidableEq

/-- The points of all deductions with an id. -/
def ScoringConfig.pointsFor (config : ScoringConfig) (ruleId : String) : Binary64 :=
  ((config.deductions.filter (·.ruleId == ruleId)).map (·.points)).foldl (· + ·) 0

/-- Charges one outcome to a score. -/
def ScoreCard.charge (config : ScoringConfig) (card : ScoreCard) (outcome : RuleOutcome) :
    ScoreCard :=
  let points := config.pointsFor outcome.ruleId
  if outcome.passed || points.sameValue 0 then card
  else ⟨(card.fitScore - points).clampAtZero, card.reasons ++ outcome.message?.toList⟩

/-- The score of soft outcomes. -/
def ScoringConfig.score (config : ScoringConfig) (soft : List RuleOutcome) : ScoreCard :=
  soft.foldl (ScoreCard.charge config) ⟨config.baseScore.clampAtZero, []⟩

/-- Every hard rule passed and the score reaches the least that is accepted. -/
def ScoringConfig.isEligible (config : ScoringConfig) (hard : List RuleOutcome)
    (fitScore : Binary64) : Bool :=
  hard.all (·.passed) && config.minAcceptScore.atMost fitScore

end Underwriting
