import Underwriting.Evaluation.Result
import Underwriting.Timestamp.Basic

/-!
# Match runs

A run collects what all programs answer to one application. It is opened as running and becomes
complete or failed once; after that it does not change. Results are kept in ascending order of
their programs and ranked by score on demand.
-/

namespace Underwriting

/-- How far a run has come. -/
inductive RunStatus
  | running
  | complete
  | failed
deriving DecidableEq

namespace RunStatus

/-- The status as it is spelled in documents and messages. -/
def label : RunStatus → String
  | .running => "RUNNING"
  | .complete => "COMPLETE"
  | .failed => "FAILED"

/-- Nothing follows this status. -/
def isTerminal : RunStatus → Bool
  | .running => false
  | .complete | .failed => true

end RunStatus

/-- One application put to the programs that accept its amount and term. -/
structure MatchRun where
  id : RunId
  loan : LoanId
  status : RunStatus
  results : List MatchResult
  failure? : Option EngineFault
  createdAt : Timestamp
  completedAt? : Option Timestamp
deriving DecidableEq

/-- The refusal to finish a run a second time. -/
structure TransitionError where
  run : RunId
  status : RunStatus
deriving DecidableEq

/-- The refusal in words. -/
def TransitionError.message (error : TransitionError) : String :=
  "match run " ++ error.run.text ++ " is already " ++ error.status.label

namespace MatchRun

/-- A run as it is opened. -/
def opened (id : RunId) (loan : LoanId) (now : Timestamp) : MatchRun where
  id := id
  loan := loan
  status := .running
  results := []
  failure? := none
  createdAt := now
  completedAt? := none

/-- Results in ascending order of their programs; those of one program keep their order. -/
def sortResults (results : List MatchResult) : List MatchResult :=
  results.mergeSort fun first second => first.program.atMost second.program

/-- The run with its results. -/
def complete (run : MatchRun) (results : List MatchResult) (now : Timestamp) :
    Except TransitionError MatchRun :=
  if run.status.isTerminal then .error ⟨run.id, run.status⟩
  else .ok { run with
    results := sortResults results, status := .complete, completedAt? := some now }

/-- The run without results and with the cause of its failure. -/
def fail (run : MatchRun) (failure : EngineFault) (now : Timestamp) :
    Except TransitionError MatchRun :=
  if run.status.isTerminal then .error ⟨run.id, run.status⟩
  else .ok { run with
    results := [], failure? := some failure, status := .failed, completedAt? := some now }

/-- Whether one result ranks before another or level with it: by score, the greatest first, and
then by program. -/
def ranksBefore (first second : MatchResult) : Bool :=
  if first.fitScore.totalPlace = second.fitScore.totalPlace then
    first.program.atMost second.program
  else second.fitScore.totalPlace < first.fitScore.totalPlace

/-- The eligible results, the best first. -/
def ranked (run : MatchRun) : List MatchResult :=
  (run.results.filter (·.eligible)).mergeSort ranksBefore

end MatchRun

end Underwriting
