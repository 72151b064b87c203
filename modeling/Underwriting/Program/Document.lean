import Underwriting.Program.Basic
import Underwriting.Json.NumberForm

/-!
# Lender and program documents

The JSON form of lenders and of their programs.
-/

namespace Underwriting

open Fields (required)

namespace Lender

/-- The document of a lender. -/
def encode (lender : Lender) : Json :=
  .object
    [("id", lender.id.encode), ("name", .string lender.name), ("active", .bool lender.active)]

/-- The fields of a lender document. -/
def fields : Fields Lender :=
  Lender.mk <$> required "id" LenderId.decode <*> required "name" .text <*>
    required "active" .bool

/-- Reads a lender document. -/
def decode : Decoder Lender := fields.decoder

end Lender

namespace LenderProgram

/-- The document of a program. -/
def encode (form : NumberForm) (program : LenderProgram) : Json :=
  .object
    [("id", program.id.encode), ("lender_id", program.lender.encode),
      ("name", .string program.name), ("min_amount", form.write program.minAmount),
      ("max_amount", form.write program.maxAmount),
      ("min_term_months", .integer program.minTermMonths.toNat),
      ("max_term_months", .integer program.maxTermMonths.toNat)]

/-- The fields of a program document. -/
def fields (form : NumberForm) : Fields LenderProgram :=
  LenderProgram.mk <$> required "id" ProgramId.decode <*> required "lender_id" LenderId.decode <*>
    required "name" .text <*> required "min_amount" form.read <*>
    required "max_amount" form.read <*> required "min_term_months" .word32 <*>
    required "max_term_months" .word32

/-- Reads a program document. -/
def decode (form : NumberForm) : Decoder LenderProgram := (fields form).decoder

end LenderProgram

end Underwriting
