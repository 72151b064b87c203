/-!
# Failures of stores

What can go wrong when a store of records is asked for one or is given one.
-/

namespace Underwriting

/-- Why a store did not do what it was asked. -/
inductive RecordError
  | conflict
  | notFound
  | unavailable (detail : String)
deriving DecidableEq

/-- The failure in words. -/
def RecordError.message : RecordError → String
  | .conflict => "record already exists"
  | .notFound => "record not found"
  | .unavailable detail => "repository unavailable: " ++ detail

end Underwriting
