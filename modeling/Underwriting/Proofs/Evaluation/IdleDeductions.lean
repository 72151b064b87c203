import Mathlib.Data.List.Nodup
import Mathlib.Logic.Relation
import Underwriting.Proofs.Evaluation.Reasons

/-! # Deductions without effect

A score reads of its configuration the base score and, for each outcome that failed, the points of
the deductions with its id, in their order. No soft outcome that failed has the id of a hard rule or
of a rule that passed, because all ids in a policy are distinct. So deductions that name such a rule,
or none, may be added, removed or changed, and deductions of different rules may change places; the
result is the same in every part.
-/

namespace Underwriting

namespace ScoringConfig

variable {config other : ScoringConfig}

/-- Two configurations list the same points for an id, in the same order. -/
def SamePoints (config other : ScoringConfig) (ruleId : String) : Prop :=
  (other.deductionsFor ruleId).map (·.points) = (config.deductionsFor ruleId).map (·.points)

instance (config other : ScoringConfig) (ruleId : String) :
    Decidable (config.SamePoints other ruleId) := inferInstanceAs (Decidable (_ = _))

/-- Two configurations that list the same points for an outcome charge it alike. -/
theorem charge_congr {outcome : RuleOutcome}
    (same : outcome.passed = false → config.SamePoints other outcome.ruleId) (card : ScoreCard) :
    card.charge other outcome = card.charge config outcome := by
  cases passed : outcome.passed with
  | true => simp only [ScoreCard.charge, passed, Bool.true_or, ↓reduceIte]
  | false =>
    have points : other.pointsFor outcome.ruleId = config.pointsFor outcome.ruleId :=
      congrArg (List.foldl (· + ·) 0) (same passed)
    simp only [ScoreCard.charge, points]

theorem score_congr (base : other.baseScore = config.baseScore) {soft : List RuleOutcome}
    (same : ∀ outcome ∈ soft, outcome.passed = false →
      config.SamePoints other outcome.ruleId) : other.score soft = config.score soft := by
  induction soft using List.reverseRecOn with
  | nil => simp only [score, base, List.foldl_nil]
  | append_singleton before outcome ih =>
    rw [List.forall_mem_append, List.forall_mem_singleton] at same
    rw [score_concat, score_concat, ih same.1, charge_congr same.2]

end ScoringConfig

section Edits

variable {idle : String → Prop} {before after : List Deduction} {ruleId : String}

/-- One change to the deductions that are listed: one that names an idle id is added, removed or
changed into such a one, or two neighbours of different rules change places. -/
inductive Deduction.Edit (idle : String → Prop) : List Deduction → List Deduction → Prop
  | add (front back : List Deduction) {deduction : Deduction} : idle deduction.ruleId →
      Edit idle (front ++ back) (front ++ deduction :: back)
  | remove (front back : List Deduction) {deduction : Deduction} : idle deduction.ruleId →
      Edit idle (front ++ deduction :: back) (front ++ back)
  | change (front back : List Deduction) {deduction changed : Deduction} :
      idle deduction.ruleId → idle changed.ruleId →
      Edit idle (front ++ deduction :: back) (front ++ changed :: back)
  | swap (front back : List Deduction) {first second : Deduction} :
      first.ruleId ≠ second.ruleId →
      Edit idle (front ++ first :: second :: back) (front ++ second :: first :: back)

/-- The deductions of an id that is not idle stay the same, and in their order. -/
theorem Deduction.Edit.filter_eq (edit : Deduction.Edit idle before after) (kept : ¬ idle ruleId) :
    after.filter (·.ruleId == ruleId) = before.filter (·.ruleId == ruleId) := by
  have skip {deduction : Deduction} (isIdle : idle deduction.ruleId) (back : List Deduction) :
      (deduction :: back).filter (·.ruleId == ruleId) = back.filter (·.ruleId == ruleId) :=
    List.filter_cons_of_neg fun same => kept (beq_iff_eq.mp same ▸ isIdle)
  cases edit with
  | add _ _ isIdle => rw [List.filter_append, List.filter_append, skip isIdle]
  | remove _ _ isIdle => rw [List.filter_append, List.filter_append, skip isIdle]
  | change _ _ isIdle also => rw [List.filter_append, List.filter_append, skip isIdle, skip also]
  | @swap _ _ first second differ =>
    rw [List.filter_append, List.filter_append]
    congr 1
    -- At most one of the two is kept, and the order shows only where both are.
    by_cases same : first.ruleId = ruleId
    · have other : ¬ second.ruleId = ruleId := fun also => differ (same.trans also.symm)
      simp only [List.filter_cons, same, beq_self_eq_true, ↓reduceIte, beq_iff_eq, other]
    · simp only [List.filter_cons, beq_iff_eq, same, ↓reduceIte]

theorem Deduction.filter_eq_of_edits
    (edits : Relation.ReflTransGen (Deduction.Edit idle) before after) (kept : ¬ idle ruleId) :
    after.filter (·.ruleId == ruleId) = before.filter (·.ruleId == ruleId) := by
  induction edits with
  | refl => rfl
  | tail _ edit ih => exact (edit.filter_eq kept).trans ih

end Edits

namespace CompiledPolicy

variable {policy : CompiledPolicy} {application : Application} {ruleId : String}

/-- The id is that of no rule, or of a hard rule, or of a soft rule that passes. -/
inductive IsIdle (policy : CompiledPolicy) (application : Application) (ruleId : String) : Prop
  | ofNoRule : (∀ rule ∈ policy.rules, rule.id ≠ ruleId) → IsIdle policy application ruleId
  | ofHardRule {rule : Rule} : rule ∈ policy.hardRules.flatten → rule.id = ruleId →
      IsIdle policy application ruleId
  | ofPassedRule {rule : Rule} : rule ∈ policy.softRules.flatten → rule.id = ruleId →
      (rule.evaluate application).passed = true → IsIdle policy application ruleId

/-- Where ids are distinct, the id of a soft rule that fails is not idle. -/
theorem not_isIdle_of_failed (distinct : (policy.rules.map (·.id)).Nodup) {rule : Rule}
    (member : rule ∈ policy.softRules.flatten)
    (failed : (rule.evaluate application).passed = false) :
    ¬ policy.IsIdle application rule.id := by
  intro idle
  cases idle with
  | ofNoRule none => exact none rule (List.mem_append_right _ member) rfl
  | @ofHardRule other hard same =>
    -- The ids of the two trees are listed one after the other, so none is in both.
    rw [rules, List.map_append, List.nodup_append] at distinct
    exact distinct.2.2 _ (List.mem_map_of_mem hard) _ (List.mem_map_of_mem member) same
  | @ofPassedRule other soft same passed =>
    have isSame : other = rule := List.inj_on_of_nodup_map distinct
      (List.mem_append_right _ soft) (List.mem_append_right _ member) same
    rw [isSame, failed] at passed
    cases passed

/-- Of its scoring an evaluation shows the score and the decision. -/
theorem evaluate_congr_scoring {other : ScoringConfig}
    (least : other.minAcceptScore = policy.scoring.minAcceptScore)
    (score : other.score (policy.softRules.evaluate application).outcomes =
      policy.scoring.score (policy.softRules.evaluate application).outcomes)
    (program : LenderProgram) :
    { policy with scoring := other }.evaluate program application =
      policy.evaluate program application := by
  simp only [evaluate, score, ScoringConfig.isEligible, least]

/-- Edits of deductions with idle ids leave the score as it is. -/
theorem score_eq_of_edits (distinct : (policy.rules.map (·.id)).Nodup) {other : ScoringConfig}
    (base : other.baseScore = policy.scoring.baseScore)
    (edits : Relation.ReflTransGen (Deduction.Edit (policy.IsIdle application))
      policy.scoring.deductions other.deductions) :
    other.score (policy.softRules.evaluate application).outcomes =
      policy.scoring.score (policy.softRules.evaluate application).outcomes := by
  refine ScoringConfig.score_congr base fun outcome member failed => ?_
  rw [RuleTree.outcomes_evaluate] at member
  obtain ⟨rule, listed, rfl⟩ := List.mem_map.mp member
  rw [Rule.evaluate_ruleId]
  exact congrArg (List.map (·.points))
    (Deduction.filter_eq_of_edits edits (not_isIdle_of_failed distinct listed failed))

end CompiledPolicy

namespace Policy

variable {policy : Policy} {compiled : CompiledPolicy}

/-- A policy that compiles still does with another scoring that has no defect, and to the same
rules. -/
theorem CompilesTo.with_scoring (compiles : policy.CompilesTo compiled) {other : ScoringConfig}
    (sound : other.IsSound) :
    { policy with scoring := other }.CompilesTo { compiled with scoring := other } :=
  { compiles with scoring := rfl, scores := sound }

/-- A score depends on the base score and on the points listed for the outcomes that failed. So
edits of deductions with idle ids change nothing in the result of a policy, and a policy that is
edited in this way compiles to the same rules. -/
theorem idle_deductions_have_no_effect :
    (∀ (config other : ScoringConfig) (soft : List RuleOutcome),
      other.baseScore = config.baseScore →
      (∀ outcome ∈ soft, outcome.passed = false → config.SamePoints other outcome.ruleId) →
      other.score soft = config.score soft) ∧
    ∀ (policy : Policy) (compiled : CompiledPolicy), policy.compile = .ok compiled →
      ∀ (other : ScoringConfig) (application : Application),
      other.baseScore = policy.scoring.baseScore →
      other.minAcceptScore = policy.scoring.minAcceptScore →
      Relation.ReflTransGen (Deduction.Edit (compiled.IsIdle application))
        policy.scoring.deductions other.deductions →
      (∀ program : LenderProgram, { compiled with scoring := other }.evaluate program application =
        compiled.evaluate program application) ∧
      (other.defect? = none →
        { policy with scoring := other }.compile = .ok { compiled with scoring := other }) := by
  refine ⟨fun config other soft base same => ScoringConfig.score_congr base same, ?_⟩
  intro policy compiled success other application base least edits
  have compiles := compilesTo_of_compile success
  rw [← compiles.scoring] at base least edits
  refine ⟨fun program => ?_, fun sound => ?_⟩
  · exact CompiledPolicy.evaluate_congr_scoring least
      (CompiledPolicy.score_eq_of_edits compiles.distinct base edits) program
  · exact compile_of_compilesTo
      (compiles.with_scoring (ScoringConfig.defect?_eq_none_iff.mp sound))

/-- The scoring of the graded policy with other deductions for ids that are idle. -/
def regraded : ScoringConfig :=
  ⟨50, 60, [⟨"ghost", 40⟩, ⟨"prime", 30⟩, ⟨"best", 0⟩, ⟨"floor", 10⟩]⟩

private theorem rules_graded : graded.compile.toOption.map (fun compiled =>
    (compiled.rules.map (·.id), compiled.hardRules.flatten.map (·.id),
      compiled.softRules.flatten.map fun rule =>
        (rule.id, (rule.evaluate (Seed.application 50000 36 690)).passed))) =
      some (["floor", "top", "good", "prime", "best"], ["floor", "top"],
        [("good", true), ("prime", false), ("best", false)]) := by
  decide +kernel

/-- For an applicant with a credit score of 690 a soft rule passes, a hard rule has the id that one
deduction names, and no rule that of another. -/
private theorem isIdle_graded (success : graded.compile = .ok compiled) :
    compiled.IsIdle (Seed.application 50000 36 690) "good" ∧
      compiled.IsIdle (Seed.application 50000 36 690) "floor" ∧
      compiled.IsIdle (Seed.application 50000 36 690) "ghost" := by
  have listed := rules_graded
  rw [success] at listed
  obtain ⟨ids, others⟩ := Prod.mk.inj (Option.some.inj listed)
  obtain ⟨hard, soft⟩ := Prod.mk.inj others
  refine ⟨?_, ?_, ?_⟩
  · have first : ("good", true) ∈ compiled.softRules.flatten.map fun rule =>
        (rule.id, (rule.evaluate (Seed.application 50000 36 690)).passed) :=
      soft ▸ List.mem_cons_self
    obtain ⟨rule, member, same⟩ := List.mem_map.mp first
    obtain ⟨same, passed⟩ := Prod.mk.inj same
    exact .ofPassedRule member same passed
  · have first : "floor" ∈ compiled.hardRules.flatten.map (·.id) := hard ▸ List.mem_cons_self
    obtain ⟨rule, member, same⟩ := List.mem_map.mp first
    exact .ofHardRule member same
  · refine .ofNoRule fun rule member same => ?_
    have listed : "ghost" ∈ compiled.rules.map (·.id) := same ▸ List.mem_map_of_mem member
    rw [ids] at listed
    revert listed
    decide

/-- Two deductions change places, the one of the rule that passed is changed and removed, and two
are added, of which one names a hard rule and one no rule. -/
private theorem edits_graded (success : graded.compile = .ok compiled) :
    Relation.ReflTransGen
      (Deduction.Edit (compiled.IsIdle (Seed.application 50000 36 690)))
      graded.scoring.deductions regraded.deductions := by
  obtain ⟨good, floor, ghost⟩ := isIdle_graded success
  have swapped : Deduction.Edit (compiled.IsIdle (Seed.application 50000 36 690))
      graded.scoring.deductions [⟨"good", 20⟩, ⟨"prime", 30⟩, ⟨"best", 0⟩] :=
    .swap [] [_] (by decide)
  have changed : Deduction.Edit (compiled.IsIdle (Seed.application 50000 36 690))
      [⟨"good", 20⟩, ⟨"prime", 30⟩, ⟨"best", 0⟩] [⟨"good", 45⟩, ⟨"prime", 30⟩, ⟨"best", 0⟩] :=
    .change [] [_, _] good good
  have dangling : Deduction.Edit (compiled.IsIdle (Seed.application 50000 36 690))
      [⟨"good", 45⟩, ⟨"prime", 30⟩, ⟨"best", 0⟩]
      [⟨"ghost", 40⟩, ⟨"good", 45⟩, ⟨"prime", 30⟩, ⟨"best", 0⟩] :=
    .add [] [_, _, _] ghost
  have removed : Deduction.Edit (compiled.IsIdle (Seed.application 50000 36 690))
      [⟨"ghost", 40⟩, ⟨"good", 45⟩, ⟨"prime", 30⟩, ⟨"best", 0⟩]
      [⟨"ghost", 40⟩, ⟨"prime", 30⟩, ⟨"best", 0⟩] :=
    .remove [_] [_, _] good
  have added : Deduction.Edit (compiled.IsIdle (Seed.application 50000 36 690))
      [⟨"ghost", 40⟩, ⟨"prime", 30⟩, ⟨"best", 0⟩] regraded.deductions :=
    .add [_, _, _] [] floor
  exact ((((Relation.ReflTransGen.single swapped).tail changed).tail dangling).tail removed).tail
    added

/-- The edited policy compiles and gives the applicant the same result. A deduction that names no
rule leaves a score as it is. -/
theorem idle_deductions_have_no_effect_graded :
    ScoringConfig.score ⟨100, 60, [⟨"ghost", 40⟩, ⟨"fico", 10⟩]⟩ [.sample "fico" false] =
        ScoringConfig.score ⟨100, 60, [⟨"fico", 10⟩]⟩ [.sample "fico" false] ∧
      ∃ compiled, graded.compile = .ok compiled ∧
        { graded with scoring := regraded }.compile =
          .ok { compiled with scoring := regraded } ∧
        gradedResult { compiled with scoring := regraded } 690 = gradedResult compiled 690 := by
  constructor
  · refine idle_deductions_have_no_effect.1 _ _ _ rfl fun outcome member _ => ?_
    rw [List.mem_singleton.mp member]
    decide +kernel
  · have listed := rules_graded
    cases success : graded.compile with
    | error error =>
      rw [success] at listed
      cases listed
    | ok compiled =>
      obtain ⟨same, compiles⟩ := idle_deductions_have_no_effect.2 graded compiled success regraded
        (Seed.application 50000 36 690) rfl rfl (edits_graded success)
      refine ⟨compiled, rfl, compiles ?_, same _⟩
      decide +kernel

end Policy

end Underwriting
