import Mathlib.Data.List.Nodup
import Underwriting.Evaluation.Engine
import Underwriting.Directory.Seed
import Underwriting.Proofs.Evaluation.Outcomes
import Underwriting.Proofs.Evaluation.Scoring
import Underwriting.Proofs.Policy.Pass
import Underwriting.Proofs.Text.Split

/-! # Which deductions a failure costs

A deduction names a rule by its id. Compiling takes the white space off the ids of rules, while the
deductions keep theirs, so a deduction that was listed for the id a rule was authored with reaches
the rule exactly if that id has no white space around it. Then it is charged to every failure of the
rule, as often as it is listed; otherwise no outcome has the id that it names.
-/

namespace Underwriting

/-- A member of a list has its counterpart in a list that corresponds to it. -/
private theorem exists_split_of_forall₂ {α β : Type} {relation : α → β → Prop} {members : List α}
    {others : List β} (related : List.Forall₂ relation members others) {member : α}
    (listed : member ∈ members) :
    ∃ before other after, others = before ++ other :: after ∧ relation member other := by
  induction related with
  | nil => cases listed
  | cons head tail ih =>
    rcases List.mem_cons.mp listed with rfl | later
    · exact ⟨[], _, _, rfl, head⟩
    · obtain ⟨before, other, after, rfl, holds⟩ := ih later
      exact ⟨_ :: before, other, after, rfl, holds⟩

/-- A deduction binds to an outcome of a result: as often as it is listed, it is among those that a
failure costs. A failure that it makes cost something is charged, and its message is a reason. -/
structure CompiledPolicy.Binds (policy : CompiledPolicy) (deduction : Deduction)
    (result : MatchResult) (before : List RuleOutcome) (outcome : RuleOutcome) : Prop where
  count : (policy.scoring.deductionsFor outcome.ruleId).count deduction =
    policy.scoring.deductions.count deduction
  charges : outcome.passed = false → deduction.points.sameValue 0 = false →
    policy.scoring.Charges before outcome
  reason : outcome.passed = false → deduction.points.sameValue 0 = false →
    ∃ message ∈ result.reasons, outcome.message? = some message

namespace Policy

variable {policy : Policy} {compiled : CompiledPolicy}

/-- Every soft definition of a policy has one place among the soft rules, and no other rule there
has its id. -/
theorem CompilesTo.exists_softRule (compiles : policy.CompilesTo compiled)
    {definition : RuleDefinition} (authored : definition ∈ policy.softRules.flatten) :
    ∃ before rule after, compiled.softRules.flatten = before ++ rule :: after ∧
      definition.CompilesTo .soft rule ∧ ∀ other ∈ before ++ after, other.id ≠ rule.id := by
  obtain ⟨before, rule, after, split, becomes⟩ :=
    exists_split_of_forall₂ compiles.softRules authored
  refine ⟨before, rule, after, split, becomes, fun other member same => ?_⟩
  have distinct := compiles.distinct
  rw [CompiledPolicy.rules, List.map_append, split, List.map_append, List.map_cons] at distinct
  have soft := (List.nodup_append.mp distinct).2.1
  rw [List.nodup_middle, List.nodup_cons, ← List.map_append] at soft
  exact soft.1 (List.mem_map.mpr ⟨other, member, same⟩)

/-- The ids of the soft outcomes are without white space around them. -/
theorem CompilesTo.trimmed_ruleId (compiles : policy.CompilesTo compiled) {rule : Rule}
    (member : rule ∈ compiled.softRules.flatten) : trimmed rule.id = rule.id := by
  obtain ⟨place, here, rfl⟩ := List.getElem_of_mem member
  have authored : place < policy.softRules.flatten.length :=
    compiles.softRules.length_eq ▸ here
  have becomes := compiles.softRules.get authored here
  rw [List.get_eq_getElem, List.get_eq_getElem] at becomes
  rw [becomes.id, trimmed_trimmed]

/-- A deduction that is listed for the id of a rule binds to the outcome of the rule. -/
private theorem CompilesTo.binds (compiles : policy.CompilesTo compiled) {rule : Rule}
    {deduction : Deduction} (listed : deduction ∈ policy.scoring.deductions)
    (refers : deduction.ruleId = rule.id) {program : LenderProgram} {application : Application}
    {before after : List RuleOutcome}
    (outcomes : (compiled.evaluate program application).ruleResults.soft =
      before ++ rule.evaluate application :: after) :
    compiled.Binds deduction (compiled.evaluate program application) before
      (rule.evaluate application) := by
  have sound : compiled.scoring.IsSound := compiles.scoring ▸ compiles.scores
  have member : deduction ∈ compiled.scoring.deductionsFor (rule.evaluate application).ruleId := by
    rw [Rule.evaluate_ruleId, compiles.scoring]
    exact List.mem_filter.mpr ⟨listed, beq_iff_eq.mpr refers⟩
  have charged (failed : (rule.evaluate application).passed = false)
      (counts : deduction.points.sameValue 0 = false) :
      compiled.scoring.costs (rule.evaluate application) = true :=
    ScoringConfig.costs_iff.mpr ⟨failed,
      (ScoringConfig.pointsFor_ne_zero_iff sound _).mpr ⟨deduction, member, counts⟩⟩
  refine ⟨?_, ?_, ?_⟩
  · rw [ScoringConfig.count_deductionsFor, Rule.evaluate_ruleId, if_pos refers]
  · intro failed counts
    exact ScoringConfig.charges_of_costs (charged failed counts) before
  · intro failed counts
    have stated : (rule.evaluate application).message?.isSome = true := by
      rw [Rule.isSome_message?_evaluate, failed, Bool.not_false]
    obtain ⟨message, stated⟩ := Option.isSome_iff_exists.mp stated
    have listed : rule.evaluate application ∈
        (compiled.evaluate program application).ruleResults.soft := by
      rw [outcomes]
      exact List.mem_append_right _ List.mem_cons_self
    refine ⟨message, List.mem_append_right _ ?_, stated⟩
    exact ScoringConfig.message_mem_reasons listed (charged failed counts) stated

/-- A deduction that is listed for the id a soft rule was authored with binds to the outcome of that
rule if the id has no white space around it, and otherwise to no outcome at all. -/
theorem evaluate_binds_authored_id (success : policy.compile = .ok compiled)
    {definition : RuleDefinition} (authored : definition ∈ policy.softRules.flatten)
    {deduction : Deduction} (listed : deduction ∈ policy.scoring.deductions)
    (refers : deduction.ruleId = definition.id) (program : LenderProgram)
    (application : Application) :
    ∃ rule before after, definition.CompilesTo .soft rule ∧
      (compiled.evaluate program application).ruleResults.soft =
        before ++ rule.evaluate application :: after ∧
      (∀ other ∈ before ++ after, other.ruleId ≠ (rule.evaluate application).ruleId) ∧
      (definition.id = trimmed definition.id →
        compiled.Binds deduction (compiled.evaluate program application) before
          (rule.evaluate application)) ∧
      (definition.id ≠ trimmed definition.id →
        ∀ outcome ∈ (compiled.evaluate program application).ruleResults.soft,
          deduction ∉ compiled.scoring.deductionsFor outcome.ruleId) := by
  have compiles := compilesTo_of_compile success
  obtain ⟨before, rule, after, split, becomes, unique⟩ := compiles.exists_softRule authored
  let evaluated := fun rule : Rule => rule.evaluate application
  have soft : (compiled.evaluate program application).ruleResults.soft =
      compiled.softRules.flatten.map evaluated := RuleTree.outcomes_evaluate application _
  have outcomes : (compiled.evaluate program application).ruleResults.soft =
      before.map evaluated ++ rule.evaluate application :: after.map evaluated := by
    rw [soft, split, List.map_append, List.map_cons]
  refine ⟨rule, before.map evaluated, after.map evaluated, becomes, outcomes, ?_, ?_, ?_⟩
  · intro other member
    rw [← List.map_append] at member
    obtain ⟨source, among, rfl⟩ := List.mem_map.mp member
    rw [Rule.evaluate_ruleId, Rule.evaluate_ruleId]
    exact unique source among
  · intro bare
    exact compiles.binds listed (refers.trans (bare.trans becomes.id.symm)) outcomes
  · intro padded outcome member among
    rw [soft] at member
    obtain ⟨other, placed, rfl⟩ := List.mem_map.mp member
    have same := beq_iff_eq.mp (List.mem_filter.mp among).2
    rw [Rule.evaluate_ruleId, refers] at same
    refine padded ?_
    rw [same, compiles.trimmed_ruleId placed]

/-- A policy with one soft rule, which asks for a good credit score, and one deduction, which names
the id that the rule is authored with. -/
def prime (id : String) : Policy :=
  ⟨⟨1⟩, 1, true, .empty, ⟨.all, [Seed.minFico id 700 .soft], []⟩, ⟨100, 60, [⟨id, 50⟩]⟩⟩

/-- The credit score of the primary guarantor. -/
def ficoPath : FieldPath :=
  ⟨"guarantors[0].fico_score", [⟨"guarantors", some 0⟩, ⟨"fico_score", none⟩]⟩

/-- The rule of that policy. -/
def primeRule (id : String) : Rule :=
  ⟨trimmed id, .minValue 700, ficoPath, .guarantor 0 .ficoScore, .soft, "FICO must be 700+"⟩

/-- That policy, compiled. -/
def compiledPrime (id : String) : CompiledPolicy :=
  ⟨⟨1⟩, 1, .empty, ⟨.all, [primeRule id], []⟩, ⟨100, 60, [⟨id, 50⟩]⟩⟩

private theorem compile_prime {id : String} (named : trimmed id ≠ "") :
    (prime id).compile = .ok (compiledPrime id) := by
  have scores : (100 : Binary64).isFinite = true ∧ (60 : Binary64).isFinite = true := by
    decide +kernel
  have points : (50 : Binary64).isFinite = true ∧ (50 : Binary64).below 0 = false := by
    decide +kernel
  have parsed : FieldPath.parse "guarantors[0].fico_score" = .ok ficoPath ∧
      ficoPath.target = .ok (.guarantor 0 .ficoScore) := by decide +kernel
  have least : (Json.integer 700).number? = some 700 ∧ (700 : Binary64).isFinite = true := by
    decide +kernel
  have message : "FICO must be 700+" = trimmed ("FICO must be " ++ Numeral.write 700 ++ "+") := by
    decide +kernel
  have typed : String.ofList ((trimBlanks "MIN_VALUE".toList).map Char.toUpper) = "MIN_VALUE" := by
    decide +kernel
  have becomes : RuleDefinition.CompilesTo .soft (Seed.minFico id 700 .soft) (primeRule id) :=
    ⟨rfl, named, rfl, rfl, ⟨_, rfl, parsed⟩, .minValue typed ⟨.integer 700, rfl, least⟩, message⟩
  exact compile_of_compilesTo
    { program := rfl, version := rfl, scoring := rfl, hardShape := rfl, softShape := rfl
      scores := ⟨scores.1, scores.2, List.forall_mem_singleton.mpr points⟩
      hardRules := .nil
      softRules := .cons becomes .nil
      distinct := List.nodup_singleton _ }

/-- What that policy answers to an applicant with a lower credit score. -/
def primeResult (id : String) : MatchResult :=
  (compiledPrime id).evaluate ⟨⟨1⟩, ⟨1⟩, "Standard", 10000, 500000, 24, 60⟩
    (Seed.application 50000 36 690)

theorem evaluate_binds_authored_id_prime :
    ∃ rule before after, (Seed.minFico "prime-fico" 700 .soft).CompilesTo .soft rule ∧
      (primeResult "prime-fico").ruleResults.soft =
        before ++ rule.evaluate (Seed.application 50000 36 690) :: after ∧
      (rule.evaluate (Seed.application 50000 36 690)).passed = false ∧
      (compiledPrime "prime-fico").Binds ⟨"prime-fico", 50⟩ (primeResult "prime-fico") before
        (rule.evaluate (Seed.application 50000 36 690)) := by
  have compiles : (prime "prime-fico").compile = .ok (compiledPrime "prime-fico") :=
    compile_prime (by decide +kernel)
  have bare : (Seed.minFico "prime-fico" 700 .soft).id = trimmed "prime-fico" := by decide +kernel
  obtain ⟨rule, before, after, becomes, outcomes, -, binds, -⟩ :=
    @evaluate_binds_authored_id _ _ compiles (Seed.minFico "prime-fico" 700 .soft)
      List.mem_cons_self ⟨"prime-fico", 50⟩ List.mem_cons_self rfl
      ⟨⟨1⟩, ⟨1⟩, "Standard", 10000, 500000, 24, 60⟩ (Seed.application 50000 36 690)
  have member : rule.evaluate (Seed.application 50000 36 690) ∈
      (primeResult "prime-fico").ruleResults.soft := by
    rw [primeResult, outcomes]
    exact List.mem_append_right _ List.mem_cons_self
  have same : rule.evaluate (Seed.application 50000 36 690) =
      (primeRule "prime-fico").evaluate (Seed.application 50000 36 690) :=
    List.mem_singleton.mp member
  have failed : (rule.evaluate (Seed.application 50000 36 690)).passed = false := by
    rw [same]
    decide +kernel
  rw [primeResult]
  exact ⟨rule, before, after, becomes, outcomes, failed, binds bare⟩

/-- The rule is authored with a blank before its id, and so is the id that the deduction names. The
rule fails, and the deduction costs nothing. -/
theorem blank_before_id_voids_deduction :
    (prime " prime-fico").compile = .ok (compiledPrime " prime-fico") ∧
      Seed.minFico " prime-fico" 700 .soft ∈ (prime " prime-fico").softRules.flatten ∧
      ⟨" prime-fico", 50⟩ ∈ (prime " prime-fico").scoring.deductions ∧
      ∃ outcome, (primeResult " prime-fico").ruleResults.soft = [outcome] ∧
        outcome.passed = false ∧
        (compiledPrime " prime-fico").scoring.deductionsFor outcome.ruleId = [] ∧
        (primeResult " prime-fico").fitScore = 100 ∧ (primeResult " prime-fico").reasons = [] := by
  refine ⟨compile_prime (by decide +kernel), List.mem_cons_self, List.mem_cons_self,
    (primeRule " prime-fico").evaluate (Seed.application 50000 36 690), rfl, ?_⟩
  decide +kernel

end Policy

end Underwriting
