import Underwriting.Service.Flight

/-! # Concluding a run

A running run takes over what a verdict says of it, and keeps its number, its loan and its start.
-/

namespace Underwriting

/-- What is found out about an application: the results of its programs, or why there are none. -/
abbrev Verdict := Except PreconditionError (List MatchResult)

namespace Verdict

/-- The results with which a run ends. -/
def results : Verdict → List MatchResult
  | .ok results => MatchRun.sortResults results
  | .error _ => []

/-- The status in which a run ends. -/
def status : Verdict → RunStatus
  | .ok _ => .complete
  | .error _ => .failed

/-- The fault with which a run ends, if it fails. -/
def failure? : Verdict → Option EngineFault
  | .ok _ => none
  | .error cause => some cause.fault

theorem isTerminal_status (verdict : Verdict) : verdict.status.isTerminal = true := by
  cases verdict <;> rfl

end Verdict

namespace MatchRun

/-- A run as it was opened. -/
def IsOpen (run : MatchRun) : Prop := run = opened run.id run.loan run.createdAt

theorem isOpen_opened (id : RunId) (loan : LoanId) (now : Timestamp) :
    (opened id loan now).IsOpen :=
  rfl

theorem IsOpen.status {run : MatchRun} (isOpen : run.IsOpen) : run.status = .running := by
  rw [isOpen]
  rfl

/-- The record without its instants. -/
def untimed (run : MatchRun) : MatchRun :=
  { run with createdAt := .epoch, completedAt? := run.completedAt?.map fun _ => .epoch }

/-- An open run once it has taken over a verdict. -/
def concluded (run : MatchRun) (verdict : Verdict) (now : Timestamp) : MatchRun where
  id := run.id
  loan := run.loan
  status := verdict.status
  results := verdict.results
  failure? := verdict.failure?
  createdAt := run.createdAt
  completedAt? := some now

theorem conclude_of_isOpen {run : MatchRun} (isOpen : run.IsOpen) (verdict : Verdict)
    (now : Timestamp) : run.conclude verdict now = .ok (run.concluded verdict now) := by
  rw [isOpen]
  cases verdict <;> rfl

end MatchRun

end Underwriting
