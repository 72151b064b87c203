import Underwriting.Service.Flight

/-!
# The underwriting service

Opens runs under ascending numbers, keeps the started ones on their courses and answers for stored
runs.
-/

namespace Underwriting

/-- The service: the next number of a run, the stored runs, and the started runs on their course,
the earliest first. -/
structure Service where
  nextRun : UInt64
  runs : RunStore
  flights : List Flight

namespace Service

/-- A service that has opened no run. -/
def new : Service := ⟨1, .empty, []⟩

/-- Opens a run. Its number is used up even if the store refuses it. -/
def openRun (service : Service) (surroundings : Surroundings) (loan : LoanId) :
    Except ServiceError MatchRun × Service :=
  let run := MatchRun.opened ⟨service.nextRun⟩ loan surroundings.now
  let service := { service with nextRun := service.nextRun + 1 }
  match service.runs.insert surroundings.outage run with
  | .error cause => (.error (.record cause), service)
  | .ok runs => (.ok run, { service with runs := runs })

/-- Opens a run and lets it begin its course. -/
def startRun (service : Service) (surroundings : Surroundings) (loan : LoanId) :
    Except ServiceError MatchRun × Service :=
  match service.openRun surroundings loan with
  | (.error error, service) => (.error error, service)
  | (.ok run, service) =>
    (.ok run, { service with flights := service.flights ++ [⟨run.id, loan, .opened⟩] })

/-- Lets all started runs end, one after the other. -/
def settle (service : Service) (surroundings : Surroundings) : Service :=
  { service with
    runs := service.flights.foldl (fun store flight => (flight.land surroundings store).2)
      service.runs
    flights := [] }

/-- Opens a run and lets it end. -/
def runMatch (service : Service) (surroundings : Surroundings) (loan : LoanId) :
    Except ServiceError MatchRun × Service :=
  match service.openRun surroundings loan with
  | (.error error, service) => (.error error, service)
  | (.ok run, service) =>
    let (outcome, runs) := Flight.land surroundings ⟨run.id, loan, .opened⟩ service.runs
    (outcome, { service with runs := runs })

/-- The stored run of a number. -/
def getRun (service : Service) (outage : StoreOutage) (id : RunId) : Except ServiceError MatchRun :=
  match service.runs.fetch outage id with
  | .error cause => .error (.record cause)
  | .ok none => .error (.record .notFound)
  | .ok (some run) => .ok run

end Service

end Underwriting
