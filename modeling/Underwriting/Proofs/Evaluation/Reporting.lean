import Underwriting.Directory.Seed
import Underwriting.Evaluation.Engine
import Underwriting.Proofs.Evaluation.Outcomes
import Underwriting.Proofs.Policy.Pass

/-! # What an evaluation reports

An evaluation has one outcome for every rule that was authored, hard rules and soft rules apart and
each in pre-order, and every hard outcome counts: one failure among them declines the applicant,
whatever the groups ask for. What the groups ask for shows in the verdicts of the two trees and
nowhere else, so a policy whose rules are grouped in another way gives the same outcomes, the same
score and the same decision.
-/

namespace Underwriting

/-- The outcome is the one of the rule that a definition becomes: it has the id and the path that
were authored, without white space around them, and a message exactly if the rule failed. -/
structure RuleDefinition.Reports (group : Severity) (application : Application)
    (definition : RuleDefinition) (outcome : RuleOutcome) : Prop where
  rule : ∃ rule, definition.CompilesTo group rule ∧ outcome = rule.evaluate application
  ruleId : outcome.ruleId = trimmed definition.id
  field : definition.field?.map trimmed = some outcome.field
  message : outcome.message?.isSome = true ↔ outcome.passed = false

namespace RuleDefinition

variable {group : Severity} {definition : RuleDefinition} {rule : Rule}

theorem CompilesTo.reports (compiles : definition.CompilesTo group rule)
    (application : Application) :
    definition.Reports group application (rule.evaluate application) := by
  refine ⟨⟨rule, compiles, rfl⟩, ?_, ?_, ?_⟩
  · rw [Rule.evaluate_ruleId, compiles.id]
  · obtain ⟨raw, given, parsed, -⟩ := compiles.field
    rw [Rule.evaluate_field, given, Option.map_some, FieldPath.text_of_parse parsed]
  · rw [Rule.isSome_message?_evaluate, Bool.not_eq_true']

/-- The outcomes of a tree report the definitions that its rules were compiled from. -/
theorem reports_outcomes {definitions : List RuleDefinition} {tree : RuleTree Rule}
    (compile : List.Forall₂ (CompilesTo group) definitions tree.flatten)
    (application : Application) :
    List.Forall₂ (Reports group application) definitions (tree.evaluate application).outcomes := by
  rw [RuleTree.outcomes_evaluate, List.forall₂_map_right_iff]
  exact compile.imp fun _ _ compiles => compiles.reports application

end RuleDefinition

/-- Two results say the same but for the verdicts of the groups. -/
structure MatchResult.SameButVerdicts (first second : MatchResult) : Prop where
  eligible : first.eligible = second.eligible
  fitScore : first.fitScore = second.fitScore
  reasons : first.reasons = second.reasons
  hard : first.ruleResults.hard = second.ruleResults.hard
  soft : first.ruleResults.soft = second.ruleResults.soft

namespace CompiledPolicy

variable {policy other : CompiledPolicy}

theorem map_ruleId_evaluate (policy : CompiledPolicy) (program : LenderProgram)
    (application : Application) :
    ((policy.evaluate program application).ruleResults.hard ++
      (policy.evaluate program application).ruleResults.soft).map (·.ruleId) =
        policy.rules.map (·.id) := by
  simp only [evaluate, rules, RuleTree.outcomes_evaluate, List.map_append, List.map_map,
    Function.comp_def, Rule.evaluate_ruleId]

theorem eligible_evaluate_iff (policy : CompiledPolicy) (program : LenderProgram)
    (application : Application) :
    (policy.evaluate program application).eligible = true ↔
      (∀ outcome ∈ (policy.evaluate program application).ruleResults.hard,
        outcome.passed = true) ∧
      policy.scoring.minAcceptScore.atMost (policy.evaluate program application).fitScore =
        true := by
  simp only [evaluate, ScoringConfig.isEligible, Bool.and_eq_true, List.all_eq_true]

/-- Of the grouping of the rules an evaluation shows nothing but the verdicts of the groups. -/
theorem evaluate_of_same_rules (hard : other.hardRules.flatten = policy.hardRules.flatten)
    (soft : other.softRules.flatten = policy.softRules.flatten)
    (scoring : other.scoring = policy.scoring) (program : LenderProgram)
    (application : Application) :
    (other.evaluate program application).SameButVerdicts
      (policy.evaluate program application) := by
  constructor <;> simp only [evaluate, RuleTree.outcomes_evaluate, hard, soft, scoring]

end CompiledPolicy

namespace Policy

variable {policy other : Policy} {compiled : CompiledPolicy}

/-- Two policies list the same definitions, whichever way these are grouped, and score alike. -/
structure Regroups (other policy : Policy) : Prop where
  hardRules : other.hardRules.flatten = policy.hardRules.flatten
  softRules : other.softRules.flatten = policy.softRules.flatten
  scoring : other.scoring = policy.scoring

/-- A policy that compiles still does when its definitions are grouped in another way, and to the
same rules. -/
theorem Regroups.exists_compile (regroups : other.Regroups policy)
    (success : policy.compile = .ok compiled) :
    ∃ regrouped, other.compile = .ok regrouped ∧
      regrouped.hardRules.flatten = compiled.hardRules.flatten ∧
      regrouped.softRules.flatten = compiled.softRules.flatten := by
  have listed : other.entries = policy.entries := by
    rw [entries, entries, regroups.hardRules, regroups.softRules]
  have swept : other.sweep = policy.sweep := by
    rw [sweep, sweep, listed, regroups.scoring]
  have passed := map_rules_compile other
  rw [swept, ← map_rules_compile, success] at passed
  cases compiles : other.compile with
  | error error =>
    rw [compiles] at passed
    cases passed
  | ok regrouped =>
    rw [compiles] at passed
    have sameRules : regrouped.rules = compiled.rules := Except.ok.inj passed
    have sameLength : regrouped.hardRules.flatten.length = compiled.hardRules.flatten.length := by
      rw [← (compilesTo_of_compile compiles).hardRules.length_eq, regroups.hardRules,
        (compilesTo_of_compile success).hardRules.length_eq]
    obtain ⟨hard, soft⟩ := List.append_inj sameRules sameLength
    exact ⟨regrouped, rfl, hard, soft⟩

/-- An evaluation has one outcome for each authored definition, in the order in which they are
authored. All ids in it are distinct, and it finds the applicant eligible exactly if every hard rule
passed and the score is high enough, however the rules are grouped. -/
theorem evaluate_reports_every_definition (success : policy.compile = .ok compiled)
    (program : LenderProgram) (application : Application) :
    let result := compiled.evaluate program application
    result.lender = program.lender ∧ result.program = program.id ∧ result.fault? = none ∧
      List.Forall₂ (RuleDefinition.Reports .hard application) policy.hardRules.flatten
        result.ruleResults.hard ∧
      List.Forall₂ (RuleDefinition.Reports .soft application) policy.softRules.flatten
        result.ruleResults.soft ∧
      ((result.ruleResults.hard ++ result.ruleResults.soft).map (·.ruleId)).Nodup ∧
      (result.eligible = true ↔
        (∀ outcome ∈ result.ruleResults.hard, outcome.passed = true) ∧
          policy.scoring.minAcceptScore.atMost result.fitScore = true) ∧
      ∀ other : Policy, other.Regroups policy → ∃ regrouped, other.compile = .ok regrouped ∧
        (regrouped.evaluate program application).SameButVerdicts result := by
  intro result
  have compiles := compilesTo_of_compile success
  refine ⟨rfl, rfl, rfl, ?_, ?_, ?_, ?_, ?_⟩
  · exact RuleDefinition.reports_outcomes compiles.hardRules application
  · exact RuleDefinition.reports_outcomes compiles.softRules application
  · rw [compiled.map_ruleId_evaluate program application]
    exact compiles.distinct
  · rw [← compiles.scoring]
    exact compiled.eligible_evaluate_iff program application
  · intro other regroups
    obtain ⟨regrouped, compiled, hard, soft⟩ := regroups.exists_compile success
    have scoring : regrouped.scoring = policy.scoring :=
      (compilesTo_of_compile compiled).scoring.trans regroups.scoring
    exact ⟨regrouped, compiled, CompiledPolicy.evaluate_of_same_rules hard soft
      (scoring.trans compiles.scoring.symm) program application⟩

/-- A policy that asks for any of two hard rules, of which the second stands in an inner group. -/
def either : Policy :=
  ⟨⟨1⟩, 1, true,
    ⟨.any, [Seed.minFico " high" 700 .hard], [⟨.all, [Seed.minFico "low" 600 .hard], []⟩]⟩,
    .empty, .standard⟩

/-- What the sample program answers to an applicant who meets only the second rule. -/
def eitherResult (compiled : CompiledPolicy) : MatchResult :=
  compiled.evaluate ⟨⟨1⟩, ⟨1⟩, "Standard", 10000, 500000, 24, 60⟩ (Seed.application 50000 36 690)

private theorem compile_either : either.compile.toOption.map (fun compiled =>
    ((eitherResult compiled).ruleResults.hardPassed,
      (eitherResult compiled).ruleResults.hard.map (·.passed))) =
        some (true, [false, true]) := by
  decide +kernel

/-- The verdict on the group is favourable and the decision is not. -/
theorem evaluate_reports_every_definition_either :
    ∃ compiled, either.compile = .ok compiled ∧
      (eitherResult compiled).ruleResults.hardPassed = true ∧
      (eitherResult compiled).eligible = false ∧
      (eitherResult compiled).ruleResults.hard.map (·.ruleId) = ["high", "low"] := by
  have evaluated := compile_either
  cases compiles : either.compile with
  | error error =>
    rw [compiles] at evaluated
    cases evaluated
  | ok compiled =>
    rw [compiles] at evaluated
    obtain ⟨verdict, passed⟩ := Prod.mk.inj (Option.some.inj evaluated)
    obtain ⟨-, -, -, reported, -, -, decided, -⟩ := evaluate_reports_every_definition compiles
      ⟨⟨1⟩, ⟨1⟩, "Standard", 10000, 500000, 24, 60⟩ (Seed.application 50000 36 690)
    refine ⟨compiled, rfl, verdict, ?_, ?_⟩
    · rw [← Bool.not_eq_true]
      intro eligible
      have all := (decided.mp eligible).1
      have failed : false ∈ (eitherResult compiled).ruleResults.hard.map (·.passed) := by
        rw [passed]
        exact List.mem_cons_self
      obtain ⟨outcome, member, refused⟩ := List.mem_map.mp failed
      exact Bool.false_ne_true (refused.symm.trans (all outcome member))
    · have ids : List.Forall₂ (· = ·) (either.hardRules.flatten.map fun entry => trimmed entry.id)
          ((eitherResult compiled).ruleResults.hard.map (·.ruleId)) := by
        rw [List.forall₂_map_left_iff, List.forall₂_map_right_iff]
        exact reported.imp fun _ _ reports => reports.ruleId.symm
      rw [List.forall₂_eq_eq_eq] at ids
      rw [← ids]
      decide +kernel

end Policy

end Underwriting
