import Underwriting.Json.Decoder

/-!
# Identifiers

Loan requests, lenders, lender programs and match runs are numbered, each kind on its own.
-/

namespace Underwriting

/-- The number under which an application is filed. -/
structure LoanId where
  value : UInt64
deriving DecidableEq

/-- The number of a lender. -/
structure LenderId where
  value : UInt64
deriving DecidableEq

/-- The number of a lender program. -/
structure ProgramId where
  value : UInt64
deriving DecidableEq

/-- The number of a match run. -/
structure RunId where
  value : UInt64
deriving DecidableEq

namespace LoanId

/-- The number in decimal. -/
def text (id : LoanId) : String := Numeral.write id.value.toNat

/-- The number as a JSON value. -/
def encode (id : LoanId) : Json := .integer id.value.toNat

/-- Reads the number. -/
def decode : Decoder LoanId := fun source => (Decoder.word64 source).map LoanId.mk

end LoanId

namespace LenderId

/-- The number in decimal. -/
def text (id : LenderId) : String := Numeral.write id.value.toNat

/-- The number as a JSON value. -/
def encode (id : LenderId) : Json := .integer id.value.toNat

/-- Reads the number. -/
def decode : Decoder LenderId := fun source => (Decoder.word64 source).map LenderId.mk

end LenderId

namespace ProgramId

/-- The number in decimal. -/
def text (id : ProgramId) : String := Numeral.write id.value.toNat

/-- The number as a JSON value. -/
def encode (id : ProgramId) : Json := .integer id.value.toNat

/-- Reads the number. -/
def decode : Decoder ProgramId := fun source => (Decoder.word64 source).map ProgramId.mk

/-- Whether one number is not greater than another. -/
def atMost (first second : ProgramId) : Bool := first.value.toNat ≤ second.value.toNat

end ProgramId

namespace RunId

/-- The number in decimal. -/
def text (id : RunId) : String := Numeral.write id.value.toNat

/-- The number as a JSON value. -/
def encode (id : RunId) : Json := .integer id.value.toNat

theorem eq_of_encode_eq {first second : RunId} (same : first.encode = second.encode) :
    first = second := by
  have values : first.value.toNat = second.value.toNat := by
    simpa only [encode, Json.integer.injEq, Int.natCast_inj] using same
  obtain ⟨value⟩ := first
  exact congrArg RunId.mk (UInt64.toNat_inj.mp values)

/-- Reads the number. -/
def decode : Decoder RunId := fun source => (Decoder.word64 source).map RunId.mk

end RunId

end Underwriting
