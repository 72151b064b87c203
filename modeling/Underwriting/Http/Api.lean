import Underwriting.Http.Route
import Underwriting.Policy.Compiled
import Underwriting.Policy.Document
import Underwriting.Run.Document
import Underwriting.Service.Basic

/-!
# The HTTP interface

Answers requests: whether the service lives and is ready, starting a run, the status of a run, and
a check of a policy that stores nothing. A path that is not served is answered before its method is
looked at, and a wrong method before anything else of the request.
-/

namespace Underwriting

/-- The largest body that is read, in bytes. -/
def maxBodySize : Nat := 2097152

/-- The answer on whether the service is ready. -/
def readinessResponse (isReady : Bool) : HttpResponse :=
  if isReady then .json 200 (.object [("status", .string "ready")])
  else .json 503 (.object [("status", .string "initializing")])

/-- The answer to a policy that was read: how many rules it has, or its defect. -/
def Policy.verdict (policy : Policy) : HttpResponse :=
  match policy.compile with
  | .ok compiled =>
    .json 200 <| .object
      [("valid", .bool true), ("lender_program_id", compiled.program.encode),
        ("rules", .integer compiled.ruleCount)]
  | .error error =>
    .json 422 <| .object
      [("valid", .bool false), ("kind", .string error.kind), ("error", .string error.message)]

/-- The answer to a request to check a policy. What stands behind the document is ignored. -/
def HttpRequest.validatePolicy (request : HttpRequest) : HttpResponse :=
  if !request.hasJson then .bare 415
  else if maxBodySize < request.body.utf8ByteSize then .bare 413
  else match (Policy.decode .plain).leading request.body with
    | .ok policy => policy.verdict
    | .error .malformed => .bare 400
    | .error .mismatch => .bare 422

namespace Service

/-- The answer to a request to start a run. -/
def answerStart (service : Service) (surroundings : Surroundings) (number : List Char) :
    HttpResponse × Service :=
  match Route.number? number with
  | none => (.bare 400, service)
  | some loan => match service.startRun surroundings ⟨loan⟩ with
    | (.ok run, service) => (.json 202 (run.encode .plain), service)
    | (.error (.record .conflict), service) =>
      (.failure 409 "match run already exists", service)
    | (.error error, service) => (.failure 500 error.message, service)

/-- The answer to a request for the status of a run. -/
def answerStatus (service : Service) (outage : StoreOutage) (number : List Char) : HttpResponse :=
  match Route.number? number with
  | none => .bare 400
  | some id => match service.getRun outage ⟨id⟩ with
    | .ok run => .json 200 (run.encode .plain)
    | .error (.record .notFound) =>
      .json 404 <| .object
        [("run_id", RunId.encode ⟨id⟩), ("error", .string "match run not found")]
    | .error error => .failure 500 error.message

/-- The answer to a request on a route, whose method is the right one. -/
def answerRoute (service : Service) (surroundings : Surroundings) (isReady : Bool)
    (request : HttpRequest) : Route → HttpResponse × Service
  | .health => (.json 200 (.object [("status", .string "ok")]), service)
  | .ready => (readinessResponse isReady, service)
  | .metrics => (.bare 200, service)
  | .startRun number => service.answerStart surroundings number
  | .runStatus number => (service.answerStatus surroundings.outage number, service)
  | .validatePolicy => (request.validatePolicy, service)

/-- The answer to a request. What may be fetched may also be asked for by its head alone, which
gives the same status and no body. -/
def answer (service : Service) (surroundings : Surroundings) (isReady : Bool)
    (request : HttpRequest) : HttpResponse × Service :=
  match Route.find? request.segments with
  | none => (.bare 404, service)
  | some route =>
    if request.method = route.method then
      service.answerRoute surroundings isReady request route
    else if request.method = "HEAD" ∧ route.method = "GET" then
      let (response, service) := service.answerRoute surroundings isReady request route
      (.bare response.status, service)
    else (.bare 405, service)

end Service

end Underwriting
