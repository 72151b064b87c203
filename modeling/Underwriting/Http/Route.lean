import Underwriting.Http.Message
import Underwriting.Identifier
import Underwriting.Text.Percent

/-!
# Routes

The paths that are served and the method of each. A path is matched segment by segment as it is
written; only the segment with a number is decoded, and it may not be empty.
-/

namespace Underwriting

/-- A path that is served. A number is kept as it is written. -/
inductive Route
  | health
  | ready
  | metrics
  | startRun (number : List Char)
  | runStatus (number : List Char)
  | validatePolicy
deriving DecidableEq

namespace Route

/-- The fixed segments under which runs and policies are served. -/
def apiBase : List String := ["", "api", "v1"]

/-- The route with a number in its last segment. -/
def numbered? (route : List Char → Route) (number : List Char) : Option Route :=
  if number.isEmpty then none else some (route number)

/-- The route of a path. -/
def find? (segments : List (List Char)) : Option Route :=
  let names := segments.map String.ofList
  if names = ["", "health"] then some .health
  else if names = ["", "ready"] then some .ready
  else if names = ["", "metrics"] then some .metrics
  else if names = apiBase ++ ["policies", "validate"] then some .validatePolicy
  else match segments.getLast? with
    | none => none
    | some number =>
      if names.dropLast = apiBase ++ ["underwriting", "run"] then numbered? .startRun number
      else if names.dropLast = apiBase ++ ["underwriting", "runs"] then numbered? .runStatus number
      else none

/-- The method of a route. -/
def method : Route → String
  | .health | .ready | .metrics | .runStatus _ => "GET"
  | .startRun _ | .validatePolicy => "POST"

/-- The number that a segment stands for. -/
def number? (segment : List Char) : Option UInt64 :=
  match percentDecoded? segment with
  | some text => (Numeral.read? (UInt64.size - 1) text.toList).map UInt64.ofNat
  | none => none

end Route

end Underwriting
