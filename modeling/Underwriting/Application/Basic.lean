import Underwriting.Number.Binary64

/-!
# Applications

What a business files for equipment financing: the borrower, the guarantors of whom the first is
the primary one, and the loan that is requested.
-/

namespace Underwriting

/-- A business seeking equipment financing. -/
structure Borrower where
  businessName : String
  industry : String
  state : String
  yearsInBusiness : Binary64
  annualRevenue : Binary64
  medicalLicense? : Option Bool
  paynetScore? : Option UInt32
deriving DecidableEq

/-- A person who guarantees the loan. -/
structure Guarantor where
  name : String
  ficoScore : UInt16
  homeowner? : Option Bool
  bankruptcy : Bool
  delinquency? : Option Bool
deriving DecidableEq

/-- The terms asked for and the equipment to be financed. -/
structure LoanRequest where
  amount : Binary64
  termMonths : UInt32
  equipmentType : String
  equipmentCost : Binary64
  equipmentYear : UInt16
  equipmentVendor : String
  equipmentCondition : String
deriving DecidableEq

/-- An application as it is filed. -/
structure Application where
  borrower : Borrower
  guarantors : List Guarantor
  loanRequest : LoanRequest
deriving DecidableEq

end Underwriting
