import Underwriting.Application.Basic
import Underwriting.Field.Path
import Underwriting.Field.Value

/-!
# Fields of an application

A path is bound once to a *target*, an attribute of the borrower, of the loan request or of the
guarantor at an index, and a target is read from any application. Reading gives nothing if there
is no such guarantor or the attribute was not supplied.
-/

namespace Underwriting

/-- An attribute of a borrower. -/
inductive BorrowerAttribute
  | businessName
  | industry
  | state
  | yearsInBusiness
  | annualRevenue
  | medicalLicense
  | paynetScore
deriving DecidableEq

/-- An attribute of a guarantor. -/
inductive GuarantorAttribute
  | name
  | ficoScore
  | homeowner
  | bankruptcy
  | delinquency
deriving DecidableEq

/-- An attribute of a loan request. -/
inductive LoanAttribute
  | amount
  | termMonths
  | equipmentType
  | equipmentCost
  | equipmentYear
  | equipmentVendor
  | equipmentCondition
deriving DecidableEq

/-- A field of an application. -/
inductive FieldTarget
  | borrower (part : BorrowerAttribute)
  | guarantor (index : UInt64) (part : GuarantorAttribute)
  | loanRequest (part : LoanAttribute)
deriving DecidableEq

namespace BorrowerAttribute

/-- All attributes. -/
def all : List BorrowerAttribute :=
  [.businessName, .industry, .state, .yearsInBusiness, .annualRevenue, .medicalLicense,
    .paynetScore]

/-- The name of the attribute in paths. -/
def pathName : BorrowerAttribute → String
  | .businessName => "business_name"
  | .industry => "industry"
  | .state => "state"
  | .yearsInBusiness => "years_in_business"
  | .annualRevenue => "annual_revenue"
  | .medicalLicense => "medical_license_flag"
  | .paynetScore => "paynet_score"

/-- The attribute of a name. -/
def ofName? (name : String) : Option BorrowerAttribute := all.find? (·.pathName == name)

/-- The value of the attribute. -/
def read? (borrower : Borrower) : BorrowerAttribute → Option FieldValue
  | .businessName => some (.text borrower.businessName)
  | .industry => some (.text borrower.industry)
  | .state => some (.text borrower.state)
  | .yearsInBusiness => some (.number borrower.yearsInBusiness)
  | .annualRevenue => some (.number borrower.annualRevenue)
  | .medicalLicense => borrower.medicalLicense?.map .flag
  | .paynetScore => borrower.paynetScore?.map fun score => .number (.ofNat score.toNat)

end BorrowerAttribute

namespace GuarantorAttribute

/-- All attributes. -/
def all : List GuarantorAttribute := [.name, .ficoScore, .homeowner, .bankruptcy, .delinquency]

/-- The name of the attribute in paths. -/
def pathName : GuarantorAttribute → String
  | .name => "name"
  | .ficoScore => "fico_score"
  | .homeowner => "homeowner_flag"
  | .bankruptcy => "bankruptcy_flag"
  | .delinquency => "delinquency_flag"

/-- The attribute of a name. -/
def ofName? (name : String) : Option GuarantorAttribute := all.find? (·.pathName == name)

/-- The value of the attribute. -/
def read? (guarantor : Guarantor) : GuarantorAttribute → Option FieldValue
  | .name => some (.text guarantor.name)
  | .ficoScore => some (.number (.ofNat guarantor.ficoScore.toNat))
  | .homeowner => guarantor.homeowner?.map .flag
  | .bankruptcy => some (.flag guarantor.bankruptcy)
  | .delinquency => guarantor.delinquency?.map .flag

end GuarantorAttribute

namespace LoanAttribute

/-- All attributes. -/
def all : List LoanAttribute :=
  [.amount, .termMonths, .equipmentType, .equipmentCost, .equipmentYear, .equipmentVendor,
    .equipmentCondition]

/-- The name of the attribute in paths. -/
def pathName : LoanAttribute → String
  | .amount => "amount"
  | .termMonths => "term_months"
  | .equipmentType => "equipment_type"
  | .equipmentCost => "equipment_cost"
  | .equipmentYear => "equipment_year"
  | .equipmentVendor => "equipment_vendor"
  | .equipmentCondition => "equipment_condition"

/-- The attribute of a name. -/
def ofName? (name : String) : Option LoanAttribute := all.find? (·.pathName == name)

/-- The value of the attribute. -/
def read (request : LoanRequest) : LoanAttribute → FieldValue
  | .amount => .number request.amount
  | .termMonths => .number (.ofNat request.termMonths.toNat)
  | .equipmentType => .text request.equipmentType
  | .equipmentCost => .number request.equipmentCost
  | .equipmentYear => .number (.ofNat request.equipmentYear.toNat)
  | .equipmentVendor => .text request.equipmentVendor
  | .equipmentCondition => .text request.equipmentCondition

end LoanAttribute

/-- The value of a field, unless there is no such guarantor or no such value. -/
def FieldTarget.read? (application : Application) : FieldTarget → Option FieldValue
  | .borrower part => part.read? application.borrower
  | .guarantor index part =>
    match application.guarantors[index.toNat]? with
    | some person => part.read? person
    | none => none
  | .loanRequest part => some (part.read application.loanRequest)

namespace FieldPath

/-- The name of the one attribute that follows the first segment. Documents are flat, so any other
number of segments leads nowhere, and an attribute has no index. -/
def attributeName (path : FieldPath) : List PathSegment → Except FieldError String
  | [segment] => match segment.index? with
    | some _ => .error (.notASequence path.text segment.name)
    | none => .ok segment.name
  | _ => .error (.notFound path.text)

/-- The attribute that follows the first segment, found by its name. -/
def findAttribute {α : Type} (path : FieldPath) (ofName? : String → Option α)
    (rest : List PathSegment) : Except FieldError α :=
  match path.attributeName rest with
  | .error error => .error error
  | .ok name => match ofName? name with
    | some part => .ok part
    | none => .error (.notFound path.text)

/-- The field that a path names. -/
def target (path : FieldPath) : Except FieldError FieldTarget :=
  match path.segments with
  | [] => .error (.invalid path.text .empty)
  | root :: rest =>
    if root.name = "borrower" then
      match root.index? with
      | some _ => .error (.notASequence path.text root.name)
      | none => (path.findAttribute BorrowerAttribute.ofName? rest).map .borrower
    else if root.name = "loan_request" then
      match root.index? with
      | some _ => .error (.notASequence path.text root.name)
      | none => (path.findAttribute LoanAttribute.ofName? rest).map .loanRequest
    else if root.name = "guarantors" then
      match root.index? with
      | none => .error (.notFound path.text)
      | some index => (path.findAttribute GuarantorAttribute.ofName? rest).map (.guarantor index)
    else .error (.notFound path.text)

/-- The value that a path names in an application. -/
def resolve (path : FieldPath) (application : Application) : Except FieldError FieldValue :=
  match path.target with
  | .error error => .error error
  | .ok target => match target.read? application with
    | some value => .ok value
    | none => .error (.notFound path.text)

end FieldPath

/-- The value that the text of a path names in an application. -/
def resolveField (raw : String) (application : Application) : Except FieldError FieldValue :=
  match FieldPath.parse raw with
  | .error error => .error error
  | .ok path => path.resolve application

end Underwriting
