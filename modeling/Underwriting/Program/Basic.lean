import Underwriting.Identifier

/-!
# Lenders and their programs

A program belongs to a lender and is offered for amounts and terms within its limits.
-/

namespace Underwriting

/-- A lender, who offers programs while active. -/
structure Lender where
  id : LenderId
  name : String
  active : Bool
deriving DecidableEq

/-- A program of a lender with its limits on amount and term. -/
structure LenderProgram where
  id : ProgramId
  lender : LenderId
  name : String
  minAmount : Binary64
  maxAmount : Binary64
  minTermMonths : UInt32
  maxTermMonths : UInt32
deriving DecidableEq

/-- The gate in front of a program's policy: amount and term lie within its limits, both ends
included. -/
def LenderProgram.accepts (program : LenderProgram) (amount : Binary64) (termMonths : UInt32) :
    Bool :=
  program.minAmount.atMost amount && amount.atMost program.maxAmount &&
    (program.minTermMonths ≤ termMonths && termMonths ≤ program.maxTermMonths)

end Underwriting
