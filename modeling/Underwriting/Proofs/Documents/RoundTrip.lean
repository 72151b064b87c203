import Underwriting.Directory.Seed
import Underwriting.Proofs.Directory.CatalogHistory
import Underwriting.Proofs.Documents.ReadBack
import Underwriting.Proofs.Service.FiniteScores

/-! # Documents make the round trip

Writing and reading agree on every document type: a plain value comes back from its document, and
once a document has been read, writing what was read and reading it again changes nothing more. The
records of a service are among the plain values, for the scores of compiled policies are finite.
-/

namespace Underwriting

/-- Plain values are read back from their documents, and so is whatever was read from a document. -/
structure RoundTrips {α : Type} (encode : α → Json) (decode : Decoder α) (isPlain : α → Prop) :
    Prop where
  readBack : ∀ value, isPlain value → decode.value (encode value) = .ok value
  fixed : ∀ tree value, Json.HasMachineNumbers tree → decode.value tree = .ok value →
    decode.value (encode value) = .ok value

/-- What is read is plain, so it is enough that plain values are read back. -/
theorem RoundTrips.of_gives {α : Type} {encode : α → Json} {decode : Decoder α}
    {isPlain : α → Prop} (gives : decode.Gives isPlain)
    (readBack : ∀ {value}, isPlain value → decode.value (encode value) = .ok value) :
    RoundTrips encode decode isPlain where
  readBack _ plain := readBack plain
  fixed tree value numbers read :=
    readBack (gives tree.toSource value (Json.isFinite_toSource tree numbers) read)

/-- Where there are no doubles every value is plain. -/
theorem RoundTrips.of_readBack {α : Type} {encode : α → Json} {decode : Decoder α}
    (readBack : ∀ value, decode.value (encode value) = .ok value) :
    RoundTrips encode decode fun _ => True where
  readBack value _ := readBack value
  fixed _ value _ _ := readBack value

/-- Every document type makes the round trip. -/
structure DocumentsRoundTrip : Prop where
  policy : RoundTrips (Policy.encode .plain) (Policy.decode .plain) Policy.IsPlain
  ruleTree : RoundTrips RuleTree.encode RuleTree.decode RuleTree.IsPlain
  ruleDefinition : RoundTrips RuleDefinition.encode RuleDefinition.decode RuleDefinition.IsPlain
  scoringConfig : RoundTrips (ScoringConfig.encode .plain) (ScoringConfig.decode .plain)
    ScoringConfig.IsPlain
  deduction : RoundTrips (Deduction.encode .plain) (Deduction.decode .plain) Deduction.IsPlain
  application : RoundTrips (Application.encode .plain) (Application.decode .plain)
    Application.IsPlain
  borrower : RoundTrips (Borrower.encode .plain) (Borrower.decode .plain) Borrower.IsPlain
  guarantor : RoundTrips Guarantor.encode Guarantor.decode fun _ => True
  loanRequest : RoundTrips (LoanRequest.encode .plain) (LoanRequest.decode .plain)
    LoanRequest.IsPlain
  lender : RoundTrips Lender.encode Lender.decode fun _ => True
  lenderProgram : RoundTrips (LenderProgram.encode .plain) (LenderProgram.decode .plain)
    LenderProgram.IsPlain
  ruleOutcome : RoundTrips RuleOutcome.encode RuleOutcome.decode fun _ => True
  ruleResults : RoundTrips RuleResults.encode RuleResults.decode fun _ => True
  engineFault : RoundTrips EngineFault.encode EngineFault.decode fun _ => True
  matchResult : RoundTrips (MatchResult.encode .plain) (MatchResult.decode .plain)
    MatchResult.IsPlain
  matchRun : RoundTrips (MatchRun.encode .plain) (MatchRun.decode .plain) MatchRun.IsPlain

private theorem all_round_trip : DocumentsRoundTrip where
  policy := .of_gives Policy.gives_decode Policy.decode_encode
  ruleTree := .of_gives RuleTree.gives_decode RuleTree.decode_encode
  ruleDefinition := .of_gives RuleDefinition.gives_decode RuleDefinition.decode_encode
  scoringConfig := .of_gives ScoringConfig.gives_decode ScoringConfig.decode_encode
  deduction := .of_gives Deduction.gives_decode Deduction.decode_encode
  application := .of_gives Application.gives_decode Application.decode_encode
  borrower := .of_gives Borrower.gives_decode Borrower.decode_encode
  guarantor := .of_readBack Guarantor.decode_encode
  loanRequest := .of_gives LoanRequest.gives_decode LoanRequest.decode_encode
  lender := .of_readBack Lender.decode_encode
  lenderProgram := .of_gives LenderProgram.gives_decode LenderProgram.decode_encode
  ruleOutcome := .of_readBack RuleOutcome.decode_encode
  ruleResults := .of_readBack RuleResults.decode_encode
  engineFault := .of_readBack EngineFault.decode_encode
  matchResult := .of_gives MatchResult.gives_decode MatchResult.decode_encode
  matchRun := .of_gives MatchRun.gives_decode MatchRun.decode_encode

namespace World

/-- Every document type makes the round trip. What a compiled policy says is plain, and so is every
record of a history with faithful evaluators, so the records make it too. -/
theorem documents_round_trip (catalog : Catalog) {evaluator : Evaluator}
    (faithful : evaluator.IsFaithful) (budget : Duration) (events : List Event)
    (keep : ∀ event ∈ events, event.KeepsFaith) :
    DocumentsRoundTrip ∧
      (∀ (policy : Policy) compiled program application, policy.compile = .ok compiled →
        (compiled.evaluate program application).IsPlain) ∧
      ∀ id run,
        ((opened catalog evaluator budget).replay events).service.runs.find? id = some run →
          run.IsPlain := by
  refine ⟨all_round_trip, ?_, ?_⟩
  · intro policy compiled program application success
    exact Policy.isPlain_evaluate success program application
  · intro id run found
    exact isPlain_replay catalog faithful budget keep found

/-- Groups within groups, one of them empty, parameters with objects in them, and two deductions of
one rule whose sum overflows. -/
def steepPolicy : Policy where
  program := ⟨11⟩
  version := 3
  isActive := true
  hardRules := ⟨.any, [Seed.hard "fico" "MIN_VALUE" "guarantors[0].fico_score"
    [("min", .integer 650), ("note", .object [("by", .null), ("days", .array [.integer (-1)])])]
    ""], [⟨.all, [], []⟩]⟩
  softRules := ⟨.all, [], [⟨.all, [Seed.minFico "ideal" 700 .soft], []⟩]⟩
  scoring := ⟨100, 60, [⟨"ideal", .ofDecimal false 17 307⟩, ⟨"ideal", .ofDecimal false 17 307⟩]⟩

/-- A catalog with this policy and an application that fails its soft rule. -/
def steepHistory : List CatalogEdit :=
  [.addLender ⟨⟨1⟩, "Apex Equipment Finance", true⟩,
    .addProgram ⟨⟨11⟩, ⟨1⟩, "Standard A", 10000, 500000, 24, 60⟩, .activatePolicy steepPolicy,
    .fileApplication Seed.sampleLoan (Seed.application 50000 36 690)]

/-- A run is started and takes its course. -/
def steepEvents : List Event :=
  [.move (.startRun Seed.sampleLoan) .epoch, .move (.advance 0) .epoch, .move (.advance 0) .epoch,
    .move (.advance 0) .epoch]

/-- A policy document that leaves out all it can; its hard rules are an array without items. -/
def briefPolicy : Json :=
  .object [("hard_rules", .array []), ("lender_program_id", .integer 7)]

theorem isPlain_steepPolicy : steepPolicy.IsPlain where
  hardRules := by
    intro definition member
    rw [List.mem_singleton.mp member]
    simp only [Seed.hard, RuleDefinition.IsPlain, Json.IsOrdered, Json.AllOrdered,
      Json.MembersOrdered]
    decide
  softRules := by
    intro definition member
    rw [List.mem_singleton.mp member]
    simp only [Seed.minFico, RuleDefinition.IsPlain, Json.IsOrdered, Json.MembersOrdered]
    decide
  scoring := ⟨by decide +kernel, by decide +kernel, by decide +kernel⟩

theorem documents_round_trip_steep :
    let start := opened (.ofEdits steepHistory) .engine (.ofMilliseconds 2000)
    let reached := start.replay steepEvents
    (Policy.decode .plain).value (steepPolicy.encode .plain) = .ok steepPolicy ∧
      (∃ policy, (Policy.decode .plain).value briefPolicy = .ok policy ∧
        (Policy.decode .plain).value (policy.encode .plain) = .ok policy) ∧
      ∃ run, reached.service.runs.find? ⟨1⟩ = some run ∧
        run.results.map (·.fitScore) = [0] ∧
        (MatchRun.decode .plain).value (run.encode .plain) = .ok run := by
  intro start reached
  have keep : ∀ event ∈ steepEvents, event.KeepsFaith := by
    simp only [steepEvents, List.forall_mem_cons, Event.KeepsFaith, List.not_mem_nil, true_and,
      false_implies, implies_true]
  obtain ⟨roundTrip, -, plain⟩ := documents_round_trip (.ofEdits steepHistory)
    Evaluator.isFaithful_engine (.ofMilliseconds 2000) steepEvents keep
  have scores : ((reached.service.runs.find? ⟨1⟩).map fun run =>
      run.results.map (·.fitScore)) = some [0] := by decide +kernel
  obtain ⟨run, found, scored⟩ := Option.map_eq_some_iff.mp scores
  refine ⟨roundTrip.policy.readBack _ isPlain_steepPolicy, ⟨_, rfl, ?_⟩, run, found, scored,
    roundTrip.matchRun.readBack _ (plain ⟨1⟩ run found)⟩
  refine roundTrip.policy.fixed briefPolicy _ ?_ rfl
  simp only [briefPolicy, Json.HasMachineNumbers, Json.MembersHaveMachineNumbers,
    Json.AllHaveMachineNumbers]
  decide

end World

end Underwriting
