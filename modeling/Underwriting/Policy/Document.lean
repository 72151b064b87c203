import Underwriting.Json.NumberForm
import Underwriting.Policy.Basic

/-!
# Policy documents

The JSON form of policies. A group without inner groups does not mention them; a rule without a
field says null.
-/

namespace Underwriting

open Fields (required optional withDefault)

namespace GroupLogic

/-- The spellings of the two logics. -/
def spellings : List (String × GroupLogic) := [("ALL", .all), ("ANY", .any)]

/-- The logic as it is spelled. -/
def label : GroupLogic → String
  | .all => "ALL"
  | .any => "ANY"

end GroupLogic

/-- The spellings of the two severities. -/
def Severity.spellings : List (String × Severity) := [("HARD", .hard), ("SOFT", .soft)]

namespace RuleDefinition

/-- The document of a rule. -/
def encode (definition : RuleDefinition) : Json :=
  .object
    [("id", .string definition.id), ("type", .string definition.ruleType),
      ("field", (definition.field?.map Json.string).getD .null),
      ("params", .object definition.params), ("severity", .string definition.severity.label),
      ("message", .string definition.message)]

/-- The fields of a rule document. -/
def fields : Fields RuleDefinition :=
  RuleDefinition.mk <$> required "id" .text <*> required "type" .text <*>
    optional "field" .text <*> withDefault "params" .members [] <*>
    required "severity" (.choice Severity.spellings) <*> withDefault "message" .text ""

/-- Reads a rule document. -/
def decode : Decoder RuleDefinition := fields.decoder

end RuleDefinition

namespace RuleTree

/-- The document of a group from those of its rules and of its inner groups. -/
def encodeGroup (logic : GroupLogic) (rules groups : List Json) : Json :=
  .object <|
    [("logic", .string logic.label), ("rules", .array rules)] ++
    Json.optionalMember "groups" (if groups.isEmpty then none else some (.array groups))

mutual

/-- The document of a group of rules. -/
def encode : RuleTree RuleDefinition → Json
  | ⟨logic, rules, groups⟩ => encodeGroup logic (rules.map RuleDefinition.encode) (encodeAll groups)

/-- The documents of several groups of rules. -/
def encodeAll : List (RuleTree RuleDefinition) → List Json
  | [] => []
  | group :: rest => encode group :: encodeAll rest

end

/-- The fields of the document of a group, given how an inner group is read. -/
def fields (inner : Decoder (RuleTree RuleDefinition)) : Fields (RuleTree RuleDefinition) :=
  RuleTree.mk <$> withDefault "logic" (.choice GroupLogic.spellings) .all <*>
    withDefault "rules" (.list RuleDefinition.decode) [] <*> withDefault "groups" (.list inner) []

/-- Reads the document of a group with fewer than so many levels of groups. -/
def decodeWithin : Nat → Decoder (RuleTree RuleDefinition)
  | 0 => fun _ => .error .mismatch
  | levels + 1 => (fields (decodeWithin levels)).decoder

/-- Reads the document of a group. It has no more levels of groups than of arrays and objects. -/
def decode : Decoder (RuleTree RuleDefinition) := fun source =>
  decodeWithin (source.depth + 1) source

end RuleTree

namespace Deduction

/-- The document of a deduction. -/
def encode (form : NumberForm) (deduction : Deduction) : Json :=
  .object [("ruleId", .string deduction.ruleId), ("points", form.write deduction.points)]

/-- The fields of a deduction document. -/
def fields (form : NumberForm) : Fields Deduction :=
  Deduction.mk <$> required "ruleId" .text <*> required "points" form.read

/-- Reads a deduction document. -/
def decode (form : NumberForm) : Decoder Deduction := (fields form).decoder

end Deduction

namespace ScoringConfig

/-- The document of a scoring configuration. -/
def encode (form : NumberForm) (config : ScoringConfig) : Json :=
  .object
    [("base_score", form.write config.baseScore),
      ("min_accept_score", form.write config.minAcceptScore),
      ("deductions", .array (config.deductions.map (Deduction.encode form)))]

/-- The fields of a scoring document. -/
def fields (form : NumberForm) : Fields ScoringConfig :=
  ScoringConfig.mk <$> withDefault "base_score" form.read standard.baseScore <*>
    withDefault "min_accept_score" form.read standard.minAcceptScore <*>
    withDefault "deductions" (.list (Deduction.decode form)) standard.deductions

/-- Reads a scoring document. -/
def decode (form : NumberForm) : Decoder ScoringConfig := (fields form).decoder

end ScoringConfig

namespace Policy

/-- The document of a policy. -/
def encode (form : NumberForm) (policy : Policy) : Json :=
  .object
    [("lender_program_id", policy.program.encode), ("version", .integer policy.version.toNat),
      ("is_active", .bool policy.isActive), ("hard_rules", policy.hardRules.encode),
      ("soft_rules", policy.softRules.encode), ("scoring_config", policy.scoring.encode form)]

/-- The fields of a policy document. -/
def fields (form : NumberForm) : Fields Policy :=
  Policy.mk <$> required "lender_program_id" ProgramId.decode <*>
    withDefault "version" .word32 1 <*> withDefault "is_active" .bool true <*>
    required "hard_rules" RuleTree.decode <*>
    withDefault "soft_rules" RuleTree.decode RuleTree.empty <*>
    withDefault "scoring_config" (ScoringConfig.decode form) .standard

/-- Reads a policy document. -/
def decode (form : NumberForm) : Decoder Policy := (fields form).decoder

end Policy

end Underwriting
