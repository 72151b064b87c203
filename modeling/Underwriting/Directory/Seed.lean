import Underwriting.Directory.Catalog

/-!
# The sample catalog

Equipment lenders with their programs and policies, and an application to try them on. One policy
names a field that applications do not have, so its program always answers with a fault; one lender
is no longer active.
-/

namespace Underwriting

namespace Seed

/-- The number under which the sample application is filed. -/
def sampleLoan : LoanId := ⟨1⟩

/-- Industries that some programs do not finance. -/
def restrictedIndustries : List Json :=
  [.string "Cannabis", .string "Gaming", .string "Adult Entertainment", .string "Firearms",
    .string "Check Cashing"]

/-- A hard rule. -/
def hard (id ruleType field : String) (params : List (String × Json)) (message : String) :
    RuleDefinition := ⟨id, ruleType, some field, params, .hard, message⟩

/-- A soft rule. -/
def soft (id ruleType field : String) (params : List (String × Json)) (message : String) :
    RuleDefinition := ⟨id, ruleType, some field, params, .soft, message⟩

/-- The least credit score of the primary guarantor. -/
def minFico (id : String) (least : Nat) (severity : Severity) : RuleDefinition :=
  ⟨id, "MIN_VALUE", some "guarantors[0].fico_score", [("min", .integer least)], severity,
    "FICO must be " ++ Numeral.write least ++ "+"⟩

/-- The least time in business. -/
def minYears (id : String) (years : Nat) : RuleDefinition :=
  hard id "MIN_VALUE" "borrower.years_in_business" [("min", .integer years)]
    (Numeral.write years ++ "+ years in business")

/-- The least payment score of the business. -/
def minPaynet (id : String) (least : Nat) : RuleDefinition :=
  hard id "MIN_VALUE" "borrower.paynet_score" [("min", .integer least)]
    ("PayNet " ++ Numeral.write least ++ "+ required")

/-- No bankruptcy of the primary guarantor. -/
def noBankruptcy (id : String) : RuleDefinition :=
  hard id "NOT_IN_LIST" "guarantors[0].bankruptcy_flag" [("list", .array [.bool true])]
    "No bankruptcies allowed"

/-- An industry that is financed. -/
def openIndustry (id : String) : RuleDefinition :=
  hard id "NOT_IN_LIST" "borrower.industry" [("list", .array restrictedIndustries)]
    "Industry is restricted"

/-- A program with the policy it is offered under. -/
structure Offer where
  program : LenderProgram
  policy : Policy

/-- An offer from its parts: limits on amount and term, hard and soft rules, the least score that
is accepted and the deductions. -/
def offer (lender : LenderId) (id : ProgramId) (name : String) (amounts : Nat × Nat)
    (terms : UInt32 × UInt32) (hardRules softRules : List RuleDefinition) (minAcceptScore : Nat)
    (deductions : List (String × Nat)) : Offer where
  program := ⟨id, lender, name, .ofNat amounts.1, .ofNat amounts.2, terms.1, terms.2⟩
  policy :=
    { program := id
      version := 1
      isActive := true
      hardRules := ⟨.all, hardRules, []⟩
      softRules := ⟨.all, softRules, []⟩
      scoring := ⟨100, .ofNat minAcceptScore,
        deductions.map fun (ruleId, points) => ⟨ruleId, .ofNat points⟩⟩ }

/-- The lenders. -/
def lenders : List Lender :=
  [⟨⟨1⟩, "Apex Equipment Finance", true⟩, ⟨⟨2⟩, "Falcon Equipment Finance", true⟩,
    ⟨⟨3⟩, "Citizens Bank", true⟩, ⟨⟨4⟩, "Stearns Bank", true⟩, ⟨⟨5⟩, "Advantage+ Financing", true⟩,
    ⟨⟨6⟩, "Legacy Leasing", false⟩]

/-- The programs and their policies. -/
def offers : List Offer :=
  [offer ⟨1⟩ ⟨11⟩ "Standard A" (10000, 500000) (24, 60)
      [minFico "fico_650" 650 .hard, minYears "tib_5yrs" 5]
      [minFico "ideal_fico_700" 700 .soft] 60 [("ideal_fico_700", 10)],
    offer ⟨1⟩ ⟨12⟩ "Standard C" (10000, 100000) (24, 60)
      [minFico "fico_640" 640 .hard, minYears "tib_2yrs" 2] [] 50 [],
    offer ⟨2⟩ ⟨21⟩ "Falcon A Program" (10000, 500000) (24, 60)
      [minYears "tib_3yrs" 3, minFico "fico_680" 680 .hard, minPaynet "paynet_660" 660,
        hard "no_private_party_sales" "NOT_IN_LIST" "loan_request.equipment_condition"
          [("list", .array [.string "Private Party"])] "Private party sales are not financed"]
      [minFico "ideal_fico_700" 700 .soft] 60 [("ideal_fico_700", 10)],
    offer ⟨3⟩ ⟨31⟩ "Tier 1 Program" (5000, 1000000) (24, 60)
      [minFico "fico_700" 700 .hard, minYears "tib_2yrs" 2]
      [soft "homeowner_check" "BOOLEAN_IS_TRUE" "guarantors[0].homeowner_flag" []
          "Guarantor is not a homeowner",
        soft "ideal_tib_3yrs" "MIN_VALUE" "borrower.years_in_business" [("min", .integer 3)]
          "Ideal 3+ years in business"]
      60 [("homeowner_check", 5), ("ideal_tib_3yrs", 10)],
    offer ⟨3⟩ ⟨32⟩ "Tier 3 Full Financials Program" (5000, 1000000) (24, 60)
      [minYears "tib_2yrs" 2,
        hard "no_CA" "NOT_IN_LIST" "borrower.state" [("list", .array [.string "CA"])]
          "California borrowers are not eligible"]
      [soft "medical_requires_license" "BOOLEAN_IS_TRUE" "borrower.medical_license_flag" []
          "Medical license on file"]
      50 [("medical_requires_license", 20)],
    offer ⟨4⟩ ⟨41⟩ "Tier 1" (25000, 1000000) (24, 72)
      [minFico "fico_725" 725 .hard, minYears "tib_3" 3, minPaynet "paynet_685" 685,
        noBankruptcy "no_bk_7yrs", openIndustry "restricted_industries"]
      [] 70 [],
    offer ⟨4⟩ ⟨42⟩ "Tier 2" (10000, 500000) (24, 60)
      [minFico "fico_700" 700 .hard, minYears "tib_2" 2, minPaynet "paynet_665" 665,
        noBankruptcy "no_bk_7yrs", openIndustry "restricted"]
      [] 60 [],
    offer ⟨5⟩ ⟨51⟩ "Standard Advantage+ Program" (10000, 75000) (12, 60)
      [minFico "min_fico_680" 680 .hard, noBankruptcy "no_bankruptcies",
        hard "no_collections" "NOT_IN_LIST" "borrower.has_collections_3yr"
          [("list", .array [.bool true])] "No collections or charge-offs in last 3 years",
        minYears "min_tib_3yrs" 3]
      [minFico "fico_700_startup" 700 .soft] 60 [("fico_700_startup", 10)],
    offer ⟨6⟩ ⟨61⟩ "Legacy Standard" (1000, 2000000) (12, 84)
      [minFico "fico_600" 600 .hard] [] 60 []]

/-- The sample catalog. -/
def catalog : Catalog :=
  offers.foldl
    (fun catalog offer => (catalog.addProgram offer.program).activatePolicy offer.policy)
    (lenders.foldl Catalog.addLender .empty)

/-- The sample application with a given amount, term and credit score. -/
def application (amount : Binary64) (termMonths : UInt32) (ficoScore : UInt16) : Application where
  borrower :=
    { businessName := "Heartland Earthworks LLC"
      industry := "Construction"
      state := "IA"
      yearsInBusiness := 4
      annualRevenue := 1800000
      medicalLicense? := none
      paynetScore? := some 690 }
  guarantors :=
    [{ name := "Jordan Alvarez"
       ficoScore := ficoScore
       homeowner? := some true
       bankruptcy := false
       delinquency? := some false }]
  loanRequest :=
    { amount := amount
      termMonths := termMonths
      equipmentType := "Excavator"
      equipmentCost := amount
      equipmentYear := 2022
      equipmentVendor := "Midwest Heavy Equipment"
      equipmentCondition := "Dealer" }

end Seed

end Underwriting
