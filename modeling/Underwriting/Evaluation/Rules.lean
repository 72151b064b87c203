import Underwriting.Evaluation.Result
import Underwriting.Policy.Compiled

/-!
# Evaluating rules

A rule reads its field and asks its question. A group evaluates its own rules and then its inner
groups; its verdict combines the verdicts of both, while the outcomes of all rules are kept in
pre-order.
-/

namespace Underwriting

/-- The answer to a rule's question. -/
inductive Check
  | pass
  | fail
  | notNumeric
  | notBoolean
deriving DecidableEq

namespace Check

/-- An answer that is yes or no. -/
def ofBool (passed : Bool) : Check := if passed then .pass else .fail

/-- An answer about a number; other values have no answer. -/
def numeric (value : FieldValue) (asked : Binary64 → Bool) : Check :=
  match value.number? with
  | some number => ofBool (asked number)
  | none => .notNumeric

end Check

/-- The answer that a value gives to a rule's question. -/
def RuleKind.check (value : FieldValue) : RuleKind → Check
  | .minValue least => .numeric value fun number => least.atMost number
  | .maxValue greatest => .numeric value fun number => number.atMost greatest
  | .range least greatest =>
    .numeric value fun number => least.atMost number && number.atMost greatest
  | .inList entries => .ofBool (entries.contains value.canonical)
  | .notInList entries => .ofBool (!entries.contains value.canonical)
  | .booleanIsTrue => match value.flag? with
    | some flag => .ofBool flag
    | none => .notBoolean

namespace Rule

/-- The outcome of a rule that passed. -/
def passedOutcome (rule : Rule) : RuleOutcome := ⟨rule.id, rule.field.text, true, none⟩

/-- The outcome of a rule that failed, and why. -/
def failedOutcome (rule : Rule) (message : String) : RuleOutcome :=
  ⟨rule.id, rule.field.text, false, some message⟩

/-- The message of a failure: the one authored, or else what the rule asks. -/
def failureMessage (rule : Rule) : String :=
  if rule.message.isEmpty then rule.kind.describe rule.field else rule.message

/-- Evaluates a rule on an application. -/
def evaluate (rule : Rule) (application : Application) : RuleOutcome :=
  match rule.target.read? application with
  | none => rule.failedOutcome ("field '" ++ rule.field.text ++ "' not found")
  | some value => match rule.kind.check value with
    | .pass => rule.passedOutcome
    | .fail => rule.failedOutcome rule.failureMessage
    | .notNumeric => rule.failedOutcome ("field '" ++ rule.field.text ++ "' is not numeric")
    | .notBoolean => rule.failedOutcome ("field '" ++ rule.field.text ++ "' is not a boolean")

end Rule

/-- The outcomes of a group's rules in pre-order, and the group's verdict. -/
structure GroupEvaluation where
  outcomes : List RuleOutcome
  passed : Bool
deriving DecidableEq

/-- The verdict of a group from those of its members. -/
def GroupLogic.verdict (logic : GroupLogic) (members : List Bool) : Bool :=
  match logic with
  | .all => members.all id
  | .any => members.any id

namespace RuleTree

mutual

/-- Evaluates a group on an application. -/
def evaluate (application : Application) : RuleTree Rule → GroupEvaluation
  | ⟨logic, rules, groups⟩ =>
    let own := rules.map fun rule => rule.evaluate application
    let inner := evaluateAll application groups
    ⟨own ++ inner.flatMap (·.outcomes),
      logic.verdict (own.map (·.passed) ++ inner.map (·.passed))⟩

/-- Evaluates several groups on an application. -/
def evaluateAll (application : Application) : List (RuleTree Rule) → List GroupEvaluation
  | [] => []
  | group :: rest => evaluate application group :: evaluateAll application rest

end

end RuleTree

end Underwriting
