import Underwriting.Breakdown
import Underwriting.Config.LogFilter

/-!
# Choosing a log filter

The filter that the environment asks for, if it is one, or else the configured level. Where a part
of a filter would have to be cut out inside a character, the choice is abandoned.
-/

namespace Underwriting

/-- Why nothing can be logged. -/
inductive LogError
  | invalidFilter (text : String)
  | notInstalled (report : String)
deriving DecidableEq

/-- The error in words. -/
def LogError.message : LogError → String
  | .invalidFilter text =>
    "invalid log level/filter '" ++ text ++ "': unable to build EnvFilter"
  | .notInstalled report => "telemetry error: " ++ report

/-- The text of the filter in force. -/
def LogFilter.choose (requested? : Option String) (configured : String) :
    Except (Breakdown LogError) String :=
  match requested?.map fun requested => (requested, fault? requested) with
  | some (requested, none) => .ok requested
  | some (_, some .splitCharacter) => .error .abandoned
  | some (_, some .malformed) | none => match fault? configured with
    | none => .ok configured
    | some .splitCharacter => .error .abandoned
    | some .malformed => .error (.reported (.invalidFilter configured))

end Underwriting
