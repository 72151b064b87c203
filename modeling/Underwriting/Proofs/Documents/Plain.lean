import Underwriting.Application.Document
import Underwriting.Policy.Document
import Underwriting.Program.Document
import Underwriting.Proofs.Json.Gives
import Underwriting.Proofs.Policy.TreeShape
import Underwriting.Run.Document

/-! # Plain values

A value of a document type is plain if all its doubles are finite, for JSON has a number only for
those, and if the parameters of its rules are in the order in which reading leaves members. What is
read from a document is plain, whichever of its fields are left to their defaults.
-/

namespace Underwriting

open Fields (gives_required gives_withDefault)

section Policies

/-- The parameters are in order. -/
def RuleDefinition.IsPlain (definition : RuleDefinition) : Prop :=
  (Json.object definition.params).IsOrdered

/-- All rules of the tree are plain. -/
def RuleTree.IsPlain (tree : RuleTree RuleDefinition) : Prop :=
  ∀ definition ∈ tree.flatten, definition.IsPlain

/-- The points are finite. -/
def Deduction.IsPlain (deduction : Deduction) : Prop := deduction.points.isFinite = true

instance (deduction : Deduction) : Decidable deduction.IsPlain :=
  inferInstanceAs (Decidable (deduction.points.isFinite = true))

/-- The scores and the points of all deductions are finite. -/
structure ScoringConfig.IsPlain (config : ScoringConfig) : Prop where
  baseScore : config.baseScore.isFinite = true
  minAcceptScore : config.minAcceptScore.isFinite = true
  deductions : ∀ deduction ∈ config.deductions, deduction.IsPlain

/-- Both trees and the scoring are plain. -/
structure Policy.IsPlain (policy : Policy) : Prop where
  hardRules : policy.hardRules.IsPlain
  softRules : policy.softRules.IsPlain
  scoring : policy.scoring.IsPlain

/-- Parameters that are not given are none, and those are in order. -/
theorem RuleDefinition.gives_decode : decode.Gives IsPlain := by
  refine Fields.Gives.decoder (.ignore (.ignore (.seq
    (gives_withDefault "params" Decoder.gives_members ⟨List.Pairwise.nil, trivial⟩)
    (.ignore (.ignore (Fields.gives_map _ ?_))))))
  intro id ruleType field? params ordered severity message
  exact ordered

namespace RuleTree

theorem isPlain_empty : empty.IsPlain := by
  intro definition member
  cases member

/-- A group is plain if its own rules and its inner groups are. -/
theorem isPlain_iff {logic : GroupLogic} {rules : List RuleDefinition}
    {groups : List (RuleTree RuleDefinition)} :
    IsPlain ⟨logic, rules, groups⟩ ↔
      (∀ definition ∈ rules, definition.IsPlain) ∧ ∀ group ∈ groups, group.IsPlain := by
  simp only [IsPlain, flatten, List.mem_append, mem_flattenAll]
  grind

theorem gives_decodeWithin (levels : Nat) : (decodeWithin levels).Gives IsPlain := by
  induction levels with
  | zero =>
    intro source tree finite read
    cases read
  | succ levels ih =>
    refine Fields.Gives.decoder (.seq (gives_withDefault "groups" ih.list ?_)
      (.seq (gives_withDefault "rules" RuleDefinition.gives_decode.list ?_)
        (Fields.gives_map _ ?_)))
    · intro group member
      cases member
    · intro definition member
      cases member
    · intro logic rules plainRules groups plainGroups
      exact isPlain_iff.mpr ⟨plainRules, plainGroups⟩

theorem gives_decode : decode.Gives IsPlain :=
  fun source => gives_decodeWithin (source.depth + 1) source

end RuleTree

theorem Deduction.gives_decode : (decode .plain).Gives IsPlain := by
  refine Fields.Gives.decoder (.seq (gives_required "points" Decoder.gives_plain)
    (Fields.gives_map _ ?_))
  intro ruleId points finite
  exact finite

namespace ScoringConfig

theorem isPlain_standard : standard.IsPlain where
  baseScore := by decide +kernel
  minAcceptScore := by decide +kernel
  deductions deduction member := by cases member

theorem gives_decode : (decode .plain).Gives IsPlain := by
  refine Fields.Gives.decoder (.seq (gives_withDefault "deductions" Deduction.gives_decode.list
    isPlain_standard.deductions) (.seq (gives_withDefault "min_accept_score" Decoder.gives_plain
    isPlain_standard.minAcceptScore) (.map (gives_withDefault "base_score" Decoder.gives_plain
    isPlain_standard.baseScore) ?_)))
  intro baseScore finiteBase minAcceptScore finiteLeast deductions plain
  exact ⟨finiteBase, finiteLeast, plain⟩

end ScoringConfig

theorem Policy.gives_decode : (decode .plain).Gives IsPlain := by
  refine Fields.Gives.decoder (.seq (gives_withDefault "scoring_config" ScoringConfig.gives_decode
    ScoringConfig.isPlain_standard) (.seq (gives_withDefault "soft_rules" RuleTree.gives_decode
    RuleTree.isPlain_empty) (.seq (gives_required "hard_rules" RuleTree.gives_decode)
    (.ignore (.ignore (Fields.gives_map _ ?_))))))
  intro program version isActive hardRules plainHard softRules plainSoft scoring plainScoring
  exact ⟨plainHard, plainSoft, plainScoring⟩

end Policies

section Applications

/-- The years and the revenue are finite. -/
structure Borrower.IsPlain (borrower : Borrower) : Prop where
  yearsInBusiness : borrower.yearsInBusiness.isFinite = true
  annualRevenue : borrower.annualRevenue.isFinite = true

/-- The amount and the cost are finite. -/
structure LoanRequest.IsPlain (request : LoanRequest) : Prop where
  amount : request.amount.isFinite = true
  equipmentCost : request.equipmentCost.isFinite = true

/-- The borrower and the loan request are plain. -/
structure Application.IsPlain (application : Application) : Prop where
  borrower : application.borrower.IsPlain
  loanRequest : application.loanRequest.IsPlain

/-- Both limits on the amount are finite. -/
structure LenderProgram.IsPlain (program : LenderProgram) : Prop where
  minAmount : program.minAmount.isFinite = true
  maxAmount : program.maxAmount.isFinite = true

theorem Borrower.gives_decode : (decode .plain).Gives IsPlain := by
  refine Fields.Gives.decoder (.ignore (.ignore (.seq
    (gives_required "annual_revenue" Decoder.gives_plain) (.seq
    (gives_required "years_in_business" Decoder.gives_plain)
    (.ignore (.ignore (Fields.gives_map _ ?_)))))))
  intro businessName industry state yearsInBusiness finiteYears annualRevenue finiteRevenue
    medicalLicense? paynetScore?
  exact ⟨finiteYears, finiteRevenue⟩

theorem LoanRequest.gives_decode : (decode .plain).Gives IsPlain := by
  refine Fields.Gives.decoder (.ignore (.ignore (.ignore (.seq
    (gives_required "equipment_cost" Decoder.gives_plain) (.ignore (.ignore
    (.map (gives_required "amount" Decoder.gives_plain) ?_)))))))
  intro amount finiteAmount termMonths equipmentType equipmentCost finiteCost year vendor condition
  exact ⟨finiteAmount, finiteCost⟩

theorem Application.gives_decode : (decode .plain).Gives IsPlain := by
  refine Fields.Gives.decoder (.seq (gives_required "loan_request" LoanRequest.gives_decode)
    (.ignore (.map (gives_required "borrower" Borrower.gives_decode) ?_)))
  intro borrower plainBorrower guarantors loanRequest plainRequest
  exact ⟨plainBorrower, plainRequest⟩

theorem LenderProgram.gives_decode : (decode .plain).Gives IsPlain := by
  refine Fields.Gives.decoder (.ignore (.ignore (.seq
    (gives_required "max_amount" Decoder.gives_plain) (.seq
    (gives_required "min_amount" Decoder.gives_plain)
    (.ignore (.ignore (Fields.gives_map _ ?_)))))))
  intro id lender name minAmount finiteLeast maxAmount finiteMost minTermMonths maxTermMonths
  exact ⟨finiteLeast, finiteMost⟩

end Applications

section Runs

/-- The fit score is finite. -/
def MatchResult.IsPlain (result : MatchResult) : Prop := result.fitScore.isFinite = true

/-- All results of the run are plain. -/
def MatchRun.IsPlain (run : MatchRun) : Prop := ∀ result ∈ run.results, result.IsPlain

theorem MatchResult.gives_decode : (decode .plain).Gives IsPlain := by
  refine Fields.Gives.decoder (.ignore (.ignore (.ignore (.seq
    (gives_required "fit_score" Decoder.gives_plain)
    (.ignore (.ignore (Fields.gives_map _ ?_)))))))
  intro lender program eligible fitScore finite reasons ruleResults fault?
  exact finite

theorem MatchRun.gives_decode : (decode .plain).Gives IsPlain := by
  refine Fields.Gives.decoder (.ignore (.ignore (.ignore (.seq
    (gives_required "results" MatchResult.gives_decode.list)
    (.ignore (.ignore (Fields.gives_map _ ?_)))))))
  intro id loan status results plain failure? createdAt completedAt?
  exact plain

end Runs

end Underwriting
