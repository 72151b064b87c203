import Underwriting.Run.Store
import Underwriting.Service.FanIn

/-!
# The course of a run

An opened run takes three steps: it takes its snapshot and is judged, its record is fetched and
finished, and the record is written back. Runs share the store, so their steps may interleave. A
run whose record cannot be fetched, finished or written ends with an error and leaves the store as
it was.
-/

namespace Underwriting

/-- Why an operation of the service failed. -/
inductive ServiceError
  | record (cause : RecordError)
  | transition (cause : TransitionError)
deriving DecidableEq

/-- The error in words. -/
def ServiceError.message : ServiceError → String
  | .record cause => cause.message
  | .transition cause => cause.message

/-- What a run works with, apart from the store. -/
structure Surroundings where
  directory : Directory
  outage : StoreOutage
  evaluator : Evaluator
  budget : Duration
  now : Timestamp

/-- How far a run is on its course. -/
inductive Stage
  | opened
  | judged (verdict : Except PreconditionError (List MatchResult))
  | finished (run : MatchRun)
  | ended (outcome : Except ServiceError MatchRun)

/-- A run on its course. -/
structure Flight where
  run : RunId
  loan : LoanId
  stage : Stage

/-- The verdict on an application: what all programs answer, or why none was asked. -/
def Surroundings.judge (surroundings : Surroundings) (loan : LoanId) :
    Except PreconditionError (List MatchResult) :=
  match surroundings.directory.prepare loan with
  | .error error => .error error
  | .ok plan => .ok (plan.evaluate surroundings.evaluator surroundings.budget)

/-- A run finished by a verdict. -/
def MatchRun.conclude (run : MatchRun) (verdict : Except PreconditionError (List MatchResult))
    (now : Timestamp) : Except TransitionError MatchRun :=
  match verdict with
  | .ok results => run.complete results now
  | .error error => run.fail error.fault now

namespace Flight

/-- One step of a run on the shared store. -/
def step (surroundings : Surroundings) (flight : Flight) (store : RunStore) : Flight × RunStore :=
  match flight.stage with
  | .opened => ({ flight with stage := .judged (surroundings.judge flight.loan) }, store)
  | .judged verdict => match store.fetch surroundings.outage flight.run with
    | .error cause => ({ flight with stage := .ended (.error (.record cause)) }, store)
    | .ok none => ({ flight with stage := .ended (.error (.record .notFound)) }, store)
    | .ok (some run) => match run.conclude verdict surroundings.now with
      | .error cause => ({ flight with stage := .ended (.error (.transition cause)) }, store)
      | .ok run => ({ flight with stage := .finished run }, store)
  | .finished run => match store.update surroundings.outage run with
    | .error cause => ({ flight with stage := .ended (.error (.record cause)) }, store)
    | .ok store => ({ flight with stage := .ended (.ok run) }, store)
  | .ended outcome => ({ flight with stage := .ended outcome }, store)

/-- All steps of a run at once, and with what it ended. -/
def land (surroundings : Surroundings) (flight : Flight) (store : RunStore) :
    Except ServiceError MatchRun × RunStore :=
  let (flight, store) := flight.step surroundings store
  let (flight, store) := flight.step surroundings store
  let (flight, store) := flight.step surroundings store
  match flight.stage with
  | .ended outcome => (outcome, store)
  | _ => (.error (.record .notFound), store)

end Flight

end Underwriting
