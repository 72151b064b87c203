import Underwriting.Duration
import Underwriting.Policy.Error
import Underwriting.Program.Basic

/-!
# Results of evaluations

What a policy says about an application: an outcome for every rule, a score, the reasons, and
whether the program is open to the applicant. Where no policy could be applied, the result is a
fault instead.
-/

namespace Underwriting

/-- What became of one rule. -/
structure RuleOutcome where
  ruleId : String
  field : String
  passed : Bool
  message? : Option String
deriving DecidableEq

/-- The outcomes of the hard and the soft rules, and the verdicts of their groups. -/
structure RuleResults where
  hard : List RuleOutcome
  soft : List RuleOutcome
  hardPassed : Bool
  softPassed : Bool
deriving DecidableEq

/-- No rule was evaluated. -/
def RuleResults.none : RuleResults := ⟨[], [], false, false⟩

/-- What kind of failure a fault records. -/
inductive FaultKind
  | policyConfiguration
  | evaluationTimeout
  | runPrecondition
deriving DecidableEq

/-- A failure recorded as data. -/
structure EngineFault where
  kind : FaultKind
  message : String
deriving DecidableEq

/-- What a program answers to an application. -/
structure MatchResult where
  lender : LenderId
  program : ProgramId
  eligible : Bool
  fitScore : Binary64
  reasons : List String
  ruleResults : RuleResults
  fault? : Option EngineFault
deriving DecidableEq

namespace EngineFault

/-- The fault of an evaluation that took longer than its budget. -/
def timeout (budget : Duration) : EngineFault :=
  ⟨.evaluationTimeout,
    "policy evaluation exceeded its " ++ Numeral.write budget.milliseconds ++ " ms budget"⟩

/-- The fault of a program whose policy can not be applied. -/
def ofPolicyError (error : PolicyError) : EngineFault :=
  ⟨.policyConfiguration, "policy configuration error: " ++ error.message⟩

/-- The fault of an evaluation that crashed. -/
def crashed (report : String) : EngineFault :=
  ⟨.policyConfiguration, "policy evaluation aborted: " ++ report⟩

/-- The fault of an evaluation of which nothing came back. -/
def lost : EngineFault :=
  ⟨.policyConfiguration, "policy evaluation aborted before producing a result"⟩

end EngineFault

namespace MatchResult

/-- The result of a program with a fault instead of outcomes. -/
def faulted (program : LenderProgram) (fault : EngineFault) : MatchResult where
  lender := program.lender
  program := program.id
  eligible := false
  fitScore := 0
  reasons := [fault.message]
  ruleResults := .none
  fault? := some fault

/-- The result of a program whose policy can not be applied. -/
def configurationFault (program : LenderProgram) (error : PolicyError) : MatchResult :=
  faulted program (.ofPolicyError error)

end MatchResult

end Underwriting
