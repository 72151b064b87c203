import Underwriting.Field.Path
import Underwriting.Policy.Basic
import Underwriting.RecordError

/-!
# Defects of policies

Why a policy can not be applied to a program, and how that is said.
-/

namespace Underwriting

/-- What is wrong with the parameters of a rule. -/
inductive ParamDefect
  | notFinite (name : String)
  | listMissing
  | notScalar (entry : Json)
  | rangeInverted (least greatest : Binary64)

/-- What is wrong with a scoring configuration. -/
inductive ScoringDefect
  | scoreNotFinite
  | badDeduction (ruleId : String)
deriving DecidableEq

/-- Why a policy can not be applied. -/
inductive PolicyError
  | missingRuleId
  | duplicateRuleId (ruleId : String)
  | severityMismatch (ruleId : String) (declared group : Severity)
  | missingField (ruleId : String)
  | badFieldPath (ruleId : String) (cause : FieldError)
  | unknownRuleType (ruleId ruleType : String)
  | invalidParams (ruleId : String) (defect : ParamDefect)
  | invalidScoring (defect : ScoringDefect)
  | programMismatch (program policyProgram : ProgramId)
  | missingPolicy (program : ProgramId)
  | policyUnavailable (program : ProgramId) (cause : RecordError)

namespace ParamDefect

/-- The defect in words. -/
def message : ParamDefect → String
  | .notFinite name => "'" ++ name ++ "' must be a finite number"
  | .listMissing => "'list' must be an array"
  | .notScalar entry => "list entry " ++ entry.compact ++ " is not a scalar"
  | .rangeInverted least greatest =>
    "range min " ++ least.text ++ " exceeds max " ++ greatest.text

end ParamDefect

namespace ScoringDefect

/-- The defect in words. -/
def message : ScoringDefect → String
  | .scoreNotFinite => "base_score and min_accept_score must be finite"
  | .badDeduction ruleId =>
    "deduction for '" ++ ruleId ++ "' must be a non-negative number of points"

end ScoringDefect

namespace PolicyError

/-- The error in words. -/
def message : PolicyError → String
  | .missingRuleId => "rule is missing an id"
  | .duplicateRuleId ruleId => "rule id '" ++ ruleId ++ "' is used more than once"
  | .severityMismatch ruleId declared group =>
    "rule '" ++ ruleId ++ "' is declared " ++ declared.label ++ " inside the " ++ group.label ++
      " rule group"
  | .missingField ruleId => "rule '" ++ ruleId ++ "' does not name a field"
  | .badFieldPath ruleId cause =>
    "rule '" ++ ruleId ++ "' has a bad field path: " ++ cause.message
  | .unknownRuleType ruleId ruleType =>
    "rule '" ++ ruleId ++ "' has unknown rule type '" ++ ruleType ++ "'"
  | .invalidParams ruleId defect =>
    "rule '" ++ ruleId ++ "' has invalid params: " ++ defect.message
  | .invalidScoring defect => "scoring config is invalid: " ++ defect.message
  | .programMismatch program policyProgram =>
    "policy targets program " ++ policyProgram.text ++ " but is attached to program " ++
      program.text
  | .missingPolicy program => "no active policy for program " ++ program.text
  | .policyUnavailable program cause =>
    "policy for program " ++ program.text ++ " could not be loaded: " ++ cause.message

/-- The category of the error. -/
def kind : PolicyError → String
  | .missingRuleId | .duplicateRuleId _ => "invalid_rule_id"
  | .severityMismatch _ _ _ => "severity_mismatch"
  | .missingField _ | .badFieldPath _ _ => "bad_field_path"
  | .unknownRuleType _ _ => "unknown_rule_type"
  | .invalidParams _ _ => "invalid_params"
  | .invalidScoring _ => "invalid_scoring"
  | .programMismatch _ _ => "program_mismatch"
  | .missingPolicy _ => "missing_policy"
  | .policyUnavailable _ _ => "policy_unavailable"

end PolicyError

end Underwriting
