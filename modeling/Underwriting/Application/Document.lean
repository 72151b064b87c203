import Underwriting.Application.Basic
import Underwriting.Json.NumberForm

/-!
# Application documents

The JSON form of applications and their parts. What was not supplied is left out.
-/

namespace Underwriting

open Fields (required optional)

namespace Borrower

/-- The document of a borrower. -/
def encode (form : NumberForm) (borrower : Borrower) : Json :=
  .object <|
    [("business_name", .string borrower.businessName), ("industry", .string borrower.industry),
      ("state", .string borrower.state),
      ("years_in_business", form.write borrower.yearsInBusiness),
      ("annual_revenue", form.write borrower.annualRevenue)] ++
    Json.optionalMember "medical_license_flag" (borrower.medicalLicense?.map .bool) ++
    Json.optionalMember "paynet_score"
      (borrower.paynetScore?.map fun score => .integer score.toNat)

/-- The fields of a borrower document. -/
def fields (form : NumberForm) : Fields Borrower :=
  Borrower.mk <$> required "business_name" .text <*> required "industry" .text <*>
    required "state" .text <*> required "years_in_business" form.read <*>
    required "annual_revenue" form.read <*> optional "medical_license_flag" .bool <*>
    optional "paynet_score" .word32

/-- Reads a borrower document. -/
def decode (form : NumberForm) : Decoder Borrower := (fields form).decoder

end Borrower

namespace Guarantor

/-- The document of a guarantor. -/
def encode (guarantor : Guarantor) : Json :=
  .object <|
    [("name", .string guarantor.name), ("fico_score", .integer guarantor.ficoScore.toNat)] ++
    Json.optionalMember "homeowner_flag" (guarantor.homeowner?.map .bool) ++
    [("bankruptcy_flag", .bool guarantor.bankruptcy)] ++
    Json.optionalMember "delinquency_flag" (guarantor.delinquency?.map .bool)

/-- The fields of a guarantor document. -/
def fields : Fields Guarantor :=
  Guarantor.mk <$> required "name" .text <*> required "fico_score" .word16 <*>
    optional "homeowner_flag" .bool <*> required "bankruptcy_flag" .bool <*>
    optional "delinquency_flag" .bool

/-- Reads a guarantor document. -/
def decode : Decoder Guarantor := fields.decoder

end Guarantor

namespace LoanRequest

/-- The document of a loan request. -/
def encode (form : NumberForm) (request : LoanRequest) : Json :=
  .object
    [("amount", form.write request.amount), ("term_months", .integer request.termMonths.toNat),
      ("equipment_type", .string request.equipmentType),
      ("equipment_cost", form.write request.equipmentCost),
      ("equipment_year", .integer request.equipmentYear.toNat),
      ("equipment_vendor", .string request.equipmentVendor),
      ("equipment_condition", .string request.equipmentCondition)]

/-- The fields of a loan request document. -/
def fields (form : NumberForm) : Fields LoanRequest :=
  LoanRequest.mk <$> required "amount" form.read <*> required "term_months" .word32 <*>
    required "equipment_type" .text <*> required "equipment_cost" form.read <*>
    required "equipment_year" .word16 <*> required "equipment_vendor" .text <*>
    required "equipment_condition" .text

/-- Reads a loan request document. -/
def decode (form : NumberForm) : Decoder LoanRequest := (fields form).decoder

end LoanRequest

namespace Application

/-- The document of an application. -/
def encode (form : NumberForm) (application : Application) : Json :=
  .object
    [("borrower", application.borrower.encode form),
      ("guarantors", .array (application.guarantors.map Guarantor.encode)),
      ("loan_request", application.loanRequest.encode form)]

/-- The fields of an application document. -/
def fields (form : NumberForm) : Fields Application :=
  Application.mk <$> required "borrower" (Borrower.decode form) <*>
    required "guarantors" (.list Guarantor.decode) <*>
    required "loan_request" (LoanRequest.decode form)

/-- Reads an application document. -/
def decode (form : NumberForm) : Decoder Application := (fields form).decoder

end Application

end Underwriting
