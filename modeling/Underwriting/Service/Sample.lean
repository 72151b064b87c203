import Underwriting.Config.Limits
import Underwriting.Directory.Seed
import Underwriting.Service.Basic

/-!
# Underwriting the sample

The sample application put to the sample catalog by a service of its own, for a first look at what
the service does.
-/

namespace Underwriting

namespace Seed

/-- The amount that the sample application asks for unless told otherwise. -/
def standardAmount : Binary64 := 50000

/-- The term of the sample application unless told otherwise. -/
def standardTermMonths : UInt32 := 36

/-- The credit score of the sample guarantor unless told otherwise. -/
def standardFicoScore : UInt16 := 690

/-- The sample catalog with the sample application filed. -/
def filedCatalog (application : Application) : Catalog :=
  catalog.fileApplication sampleLoan application

/-- The run of the sample application, or why there is none. -/
def underwrite (amount? : Option Binary64) (termMonths? : Option UInt32)
    (ficoScore? : Option UInt16) (now : Timestamp) : Except ServiceError MatchRun :=
  let application := application (amount?.getD standardAmount)
    (termMonths?.getD standardTermMonths) (ficoScore?.getD standardFicoScore)
  let surroundings : Surroundings :=
    { directory := (filedCatalog application).directory
      outage := .none
      evaluator := .engine
      budget := Limits.standard.budget
      now := now }
  (Service.new.runMatch surroundings sampleLoan).1

end Seed

end Underwriting
