import Underwriting.Json.Basic
import Underwriting.Identifier
import Underwriting.Policy.RuleTree

/-!
# Policies as authored

A policy belongs to a lender program. It has a tree of hard rules, which decide, a tree of soft
rules, which cost points, and the points. The parameters of a rule are untyped here; compiling the
policy gives them their meaning.
-/

namespace Underwriting

/-- Whether a rule decides or costs points. -/
inductive Severity
  | hard
  | soft
deriving DecidableEq

/-- The severity as it is spelled in documents and messages. -/
def Severity.label : Severity → String
  | .hard => "HARD"
  | .soft => "SOFT"

/-- A rule as authored. The parameters are in ascending order of their names. -/
structure RuleDefinition where
  id : String
  ruleType : String
  field? : Option String
  params : List (String × Json)
  severity : Severity
  message : String

/-- Points taken off the score when the soft rule of this id fails. -/
structure Deduction where
  ruleId : String
  points : Binary64
deriving DecidableEq

/-- The score that a program starts from, the least score it accepts, and the deductions. -/
structure ScoringConfig where
  baseScore : Binary64
  minAcceptScore : Binary64
  deductions : List Deduction
deriving DecidableEq

/-- The scoring of a policy that states none. -/
def ScoringConfig.standard : ScoringConfig := ⟨100, 60, []⟩

/-- A policy as authored. -/
structure Policy where
  program : ProgramId
  version : UInt32
  isActive : Bool
  hardRules : RuleTree RuleDefinition
  softRules : RuleTree RuleDefinition
  scoring : ScoringConfig

end Underwriting
