import Underwriting.Field.Target
import Underwriting.Policy.Error

/-!
# Compiled policies

Compiling a policy checks its rules one after the other, hard tree before soft tree and each tree
in pre-order, and stops at the first defect. A rule that passes is bound to its field and has typed
parameters; its id, without surrounding white space, occurs in the policy once.
-/

namespace Underwriting

/-- What a rule asks of the value of its field. -/
inductive RuleKind
  | minValue (least : Binary64)
  | maxValue (greatest : Binary64)
  | inList (entries : List String)
  | notInList (entries : List String)
  | booleanIsTrue
  | range (least greatest : Binary64)
deriving DecidableEq

/-- A rule that can be evaluated. -/
structure Rule where
  id : String
  kind : RuleKind
  field : FieldPath
  target : FieldTarget
  severity : Severity
  message : String
deriving DecidableEq

/-- A policy whose rules can all be evaluated. -/
structure CompiledPolicy where
  program : ProgramId
  version : UInt32
  hardRules : RuleTree Rule
  softRules : RuleTree Rule
  scoring : ScoringConfig

/-- What a rule asks, in words; the message of a failure whose rule has none of its own. -/
def RuleKind.describe (field : FieldPath) : RuleKind → String
  | .minValue least => field.text ++ " must be at least " ++ canonicalNumber least
  | .maxValue greatest => field.text ++ " must be at most " ++ canonicalNumber greatest
  | .inList entries => field.text ++ " must be one of [" ++ String.intercalate ", " entries ++ "]"
  | .notInList entries =>
    field.text ++ " must not be one of [" ++ String.intercalate ", " entries ++ "]"
  | .booleanIsTrue => field.text ++ " must be true"
  | .range least greatest =>
    field.text ++ " must be between " ++ canonicalNumber least ++ " and " ++
      canonicalNumber greatest

/-- The number of rules in a compiled policy. -/
def CompiledPolicy.ruleCount (policy : CompiledPolicy) : Nat :=
  policy.hardRules.ruleCount + policy.softRules.ruleCount

/-- The double that a JSON number stands for. -/
def Json.number? : Json → Option Binary64
  | .integer value => some (.ofInt value)
  | .float value => some value
  | _ => none

namespace RuleDefinition

/-- A parameter that has to be a finite number. -/
def numberParam (definition : RuleDefinition) (name : String) : Except ParamDefect Binary64 :=
  match (definition.params.lookup name).bind Json.number? with
  | some number => if number.isFinite then .ok number else .error (.notFinite name)
  | none => .error (.notFinite name)

/-- An entry of a list parameter as the text it is compared by. -/
def listEntry : Json → Except ParamDefect String
  | .string value => .ok value
  | .bool value => .ok (if value then "true" else "false")
  | .integer value => .ok (canonicalNumber (.ofInt value))
  | .float value => .ok (canonicalNumber value)
  | other => .error (.notScalar other)

/-- The entries of a list parameter, or the first that is no scalar. -/
def listEntries : List Json → Except ParamDefect (List String)
  | [] => .ok []
  | entry :: rest => match listEntry entry with
    | .error defect => .error defect
    | .ok text => (listEntries rest).map (text :: ·)

/-- The list parameter. -/
def listParam (definition : RuleDefinition) : Except ParamDefect (List String) :=
  match definition.params.lookup "list" with
  | some (.array entries) => listEntries entries
  | _ => .error .listMissing

/-- The parameters of a range, the lower end not above the upper. -/
def rangeParams (definition : RuleDefinition) : Except ParamDefect RuleKind :=
  match definition.numberParam "min", definition.numberParam "max" with
  | .error defect, _ => .error defect
  | .ok _, .error defect => .error defect
  | .ok least, .ok greatest =>
    if greatest.below least then .error (.rangeInverted least greatest)
    else .ok (.range least greatest)

/-- The name of the rule's type without surrounding white space and in capitals. -/
def typeName (definition : RuleDefinition) : String :=
  String.ofList ((trimBlanks definition.ruleType.toList).map Char.toUpper)

/-- What the rule asks, read from its type and parameters; nothing if the type is unknown. -/
def kind? (definition : RuleDefinition) : Option (Except ParamDefect RuleKind) :=
  match definition.typeName with
  | "MIN_VALUE" => some ((definition.numberParam "min").map .minValue)
  | "MAX_VALUE" => some ((definition.numberParam "max").map .maxValue)
  | "IN_LIST" => some (definition.listParam.map .inList)
  | "NOT_IN_LIST" => some (definition.listParam.map .notInList)
  | "BOOLEAN_IS_TRUE" => some (.ok .booleanIsTrue)
  | "RANGE" => some definition.rangeParams
  | _ => none

/-- What the rule asks. -/
def compileKind (id : String) (definition : RuleDefinition) : Except PolicyError RuleKind :=
  match definition.kind? with
  | none => .error (.unknownRuleType id definition.ruleType)
  | some (.error defect) => .error (.invalidParams id defect)
  | some (.ok kind) => .ok kind

/-- The path of the rule's field and the field it names. -/
def compileField (id : String) (definition : RuleDefinition) :
    Except PolicyError (FieldPath × FieldTarget) :=
  match definition.field? with
  | none => .error (.missingField id)
  | some raw => match FieldPath.parse raw with
    | .error cause => .error (.badFieldPath id cause)
    | .ok path => match path.target with
      | .error cause => .error (.badFieldPath id cause)
      | .ok target => .ok (path, target)

/-- Compiles a rule of a tree of the given severity, after rules with the ids in `seen`. -/
def compile (group : Severity) (seen : List String) (definition : RuleDefinition) :
    Except PolicyError Rule :=
  let id := trimmed definition.id
  if id = "" then .error .missingRuleId
  else if seen.contains id then .error (.duplicateRuleId id)
  else if definition.severity ≠ group then
    .error (.severityMismatch id definition.severity group)
  else match compileField id definition with
    | .error error => .error error
    | .ok (field, target) => match compileKind id definition with
      | .error error => .error error
      | .ok kind =>
        .ok ⟨id, kind, field, target, definition.severity, trimmed definition.message⟩

/-- Compiles rules one after the other; gives also the ids seen so far. -/
def compileAll (group : Severity) (seen : List String) :
    List RuleDefinition → Except PolicyError (List Rule × List String)
  | [] => .ok ([], seen)
  | definition :: rest => match definition.compile group seen with
    | .error error => .error error
    | .ok rule => match compileAll group (rule.id :: seen) rest with
      | .error error => .error error
      | .ok (rules, seen) => .ok (rule :: rules, seen)

end RuleDefinition

namespace RuleTree

mutual

/-- Compiles the rules of a group and then its inner groups; gives also the ids seen so far. -/
def compile (severity : Severity) (seen : List String) :
    RuleTree RuleDefinition → Except PolicyError (RuleTree Rule × List String)
  | ⟨logic, definitions, groups⟩ => match RuleDefinition.compileAll severity seen definitions with
    | .error error => .error error
    | .ok (rules, seen) => match compileAll severity seen groups with
      | .error error => .error error
      | .ok (groups, seen) => .ok (⟨logic, rules, groups⟩, seen)

/-- Compiles groups one after the other; gives also the ids seen so far. -/
def compileAll (severity : Severity) (seen : List String) :
    List (RuleTree RuleDefinition) → Except PolicyError (List (RuleTree Rule) × List String)
  | [] => .ok ([], seen)
  | group :: rest => match compile severity seen group with
    | .error error => .error error
    | .ok (group, seen) => match compileAll severity seen rest with
      | .error error => .error error
      | .ok (groups, seen) => .ok (group :: groups, seen)

end

end RuleTree

/-- The first defect of a scoring configuration: its two scores are finite, and so are all
deductions, none of them negative. -/
def ScoringConfig.defect? (config : ScoringConfig) : Option ScoringDefect :=
  if !config.baseScore.isFinite || !config.minAcceptScore.isFinite then some .scoreNotFinite
  else match config.deductions.find? fun deduction =>
      !deduction.points.isFinite || deduction.points.below 0 with
    | some deduction => some (.badDeduction deduction.ruleId)
    | none => none

/-- Compiles a policy, or says what is wrong with it first. -/
def Policy.compile (policy : Policy) : Except PolicyError CompiledPolicy :=
  match policy.hardRules.compile .hard [] with
  | .error error => .error error
  | .ok (hardRules, seen) => match policy.softRules.compile .soft seen with
    | .error error => .error error
    | .ok (softRules, _) => match policy.scoring.defect? with
      | some defect => .error (.invalidScoring defect)
      | none => .ok ⟨policy.program, policy.version, hardRules, softRules, policy.scoring⟩

end Underwriting
