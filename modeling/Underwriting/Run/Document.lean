import Underwriting.Evaluation.Document
import Underwriting.Run.Basic
import Underwriting.Timestamp.Text

/-!
# Run documents

The JSON form of match runs.
-/

namespace Underwriting

open Fields (required optional)

/-- The spellings of the statuses of a run. -/
def RunStatus.spellings : List (String × RunStatus) :=
  [("RUNNING", .running), ("COMPLETE", .complete), ("FAILED", .failed)]

namespace MatchRun

/-- The document of a run. -/
def encode (form : NumberForm) (run : MatchRun) : Json :=
  .object <|
    [("id", run.id.encode), ("loan_request_id", run.loan.encode),
      ("status", .string run.status.label),
      ("results", .array (run.results.map (MatchResult.encode form)))] ++
    Json.optionalMember "failure" (run.failure?.map EngineFault.encode) ++
    [("created_at", run.createdAt.encode)] ++
    Json.optionalMember "completed_at" (run.completedAt?.map Timestamp.encode)

/-- The fields of a run document. -/
def fields (form : NumberForm) : Fields MatchRun :=
  MatchRun.mk <$> required "id" RunId.decode <*> required "loan_request_id" LoanId.decode <*>
    required "status" (.choice RunStatus.spellings) <*>
    required "results" (.list (MatchResult.decode form)) <*>
    optional "failure" EngineFault.decode <*> required "created_at" Timestamp.decode <*>
    optional "completed_at" Timestamp.decode

/-- Reads a run document. -/
def decode (form : NumberForm) : Decoder MatchRun := (fields form).decoder

end MatchRun

end Underwriting
