import Underwriting.Evaluation.Result
import Underwriting.Json.NumberForm

/-!
# Result documents

The JSON form of outcomes, faults and match results.
-/

namespace Underwriting

open Fields (required optional withDefault)

namespace RuleOutcome

/-- The document of an outcome. -/
def encode (outcome : RuleOutcome) : Json :=
  .object <|
    [("rule_id", .string outcome.ruleId), ("field", .string outcome.field),
      ("passed", .bool outcome.passed)] ++
    Json.optionalMember "message" (outcome.message?.map .string)

/-- The fields of an outcome document. -/
def fields : Fields RuleOutcome :=
  RuleOutcome.mk <$> required "rule_id" .text <*> required "field" .text <*>
    required "passed" .bool <*> optional "message" .text

/-- Reads an outcome document. -/
def decode : Decoder RuleOutcome := fields.decoder

end RuleOutcome

namespace RuleResults

/-- The document of the outcomes of both trees. -/
def encode (results : RuleResults) : Json :=
  .object
    [("hard", .array (results.hard.map RuleOutcome.encode)),
      ("soft", .array (results.soft.map RuleOutcome.encode)),
      ("hard_passed", .bool results.hardPassed), ("soft_passed", .bool results.softPassed)]

/-- The fields of such a document. -/
def fields : Fields RuleResults :=
  RuleResults.mk <$> required "hard" (.list RuleOutcome.decode) <*>
    required "soft" (.list RuleOutcome.decode) <*> withDefault "hard_passed" .bool false <*>
    withDefault "soft_passed" .bool false

/-- Reads such a document. -/
def decode : Decoder RuleResults := fields.decoder

end RuleResults

namespace FaultKind

/-- The spellings of the kinds of fault. -/
def spellings : List (String × FaultKind) :=
  [("policy_configuration", .policyConfiguration), ("evaluation_timeout", .evaluationTimeout),
    ("run_precondition", .runPrecondition)]

/-- The kind as it is spelled. -/
def label : FaultKind → String
  | .policyConfiguration => "policy_configuration"
  | .evaluationTimeout => "evaluation_timeout"
  | .runPrecondition => "run_precondition"

end FaultKind

namespace EngineFault

/-- The document of a fault. -/
def encode (fault : EngineFault) : Json :=
  .object [("kind", .string fault.kind.label), ("message", .string fault.message)]

/-- The fields of a fault document. -/
def fields : Fields EngineFault :=
  EngineFault.mk <$> required "kind" (.choice FaultKind.spellings) <*> required "message" .text

/-- Reads a fault document. -/
def decode : Decoder EngineFault := fields.decoder

end EngineFault

namespace MatchResult

/-- The document of a match result. -/
def encode (form : NumberForm) (result : MatchResult) : Json :=
  .object <|
    [("lender_id", result.lender.encode), ("lender_program_id", result.program.encode),
      ("eligible", .bool result.eligible), ("fit_score", form.write result.fitScore),
      ("reasons", .array (result.reasons.map .string)),
      ("rule_results", result.ruleResults.encode)] ++
    Json.optionalMember "fault" (result.fault?.map EngineFault.encode)

/-- The fields of a match result document. -/
def fields (form : NumberForm) : Fields MatchResult :=
  MatchResult.mk <$> required "lender_id" LenderId.decode <*>
    required "lender_program_id" ProgramId.decode <*> required "eligible" .bool <*>
    required "fit_score" form.read <*> required "reasons" (.list .text) <*>
    required "rule_results" RuleResults.decode <*> optional "fault" EngineFault.decode

/-- Reads a match result document. -/
def decode (form : NumberForm) : Decoder MatchResult := (fields form).decoder

end MatchResult

end Underwriting
