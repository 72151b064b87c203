import Underwriting.Directory.Seed
import Underwriting.Proofs.Evaluation.Reporting

/-! # Verdicts and outcomes

The verdict of a group is made of the verdicts of its members, and its outcomes are those of all
rules below it, so verdict and outcomes go apart where a group asks for any of its members. They
still agree in one direction: a verdict never turns against an applicant who passes more rules, and
in a tree that asks for all it says whether every rule passed. A group without members has a verdict
that no outcome accounts for, favourable if it asks for all of them and unfavourable if it asks for
any. Without groups of the latter kind a favourable verdict follows from the outcomes, and without
those of the former kind some outcome follows from the verdict.
-/

namespace Underwriting

namespace RuleTree

section Verdict

variable {application : Application} {rules : List Rule} {groups : List (RuleTree Rule)}

theorem evaluateAll_eq_map (application : Application) (groups : List (RuleTree Rule)) :
    evaluateAll application groups = groups.map (evaluate application) := by
  induction groups with
  | nil => rfl
  | cons group rest ih => rw [evaluateAll, ih, List.map_cons]

/-- A group that asks for all passes if all of its rules and inner groups do. -/
theorem passed_all_iff :
    (evaluate application ⟨.all, rules, groups⟩).passed = true ↔
      (∀ rule ∈ rules, (rule.evaluate application).passed = true) ∧
        ∀ group ∈ groups, (group.evaluate application).passed = true := by
  simp only [evaluate, evaluateAll_eq_map, GroupLogic.verdict, List.all_append, List.all_map,
    Bool.and_eq_true, List.all_eq_true, Function.comp_apply, id_eq]

/-- A group that asks for any passes if one of its rules or inner groups does. -/
theorem passed_any_iff :
    (evaluate application ⟨.any, rules, groups⟩).passed = true ↔
      (∃ rule ∈ rules, (rule.evaluate application).passed = true) ∨
        ∃ group ∈ groups, (group.evaluate application).passed = true := by
  simp only [evaluate, evaluateAll_eq_map, GroupLogic.verdict, List.any_append, List.any_map,
    Bool.or_eq_true, List.any_eq_true, Function.comp_apply, id_eq]

/-- All outcomes of a tree passed if all of its rules do. -/
theorem forall_outcomes_iff {tree : RuleTree Rule} :
    (∀ outcome ∈ (tree.evaluate application).outcomes, outcome.passed = true) ↔
      ∀ rule ∈ tree.flatten, (rule.evaluate application).passed = true := by
  rw [outcomes_evaluate, List.forall_mem_map]

end Verdict

section Trees

variable {application better : Application}

/-- An applicant who passes more rules does not get a worse verdict. -/
theorem passed_mono (tree : RuleTree Rule)
    (more : ∀ rule ∈ tree.flatten, (rule.evaluate application).passed = true →
      (rule.evaluate better).passed = true)
    (passed : (tree.evaluate application).passed = true) :
    (tree.evaluate better).passed = true := by
  induction tree using groupInduction with
  | group logic rules groups ih =>
    have own : ∀ rule ∈ rules, (rule.evaluate application).passed = true →
        (rule.evaluate better).passed = true :=
      fun rule member => more rule (mem_flatten.mpr (.inl member))
    have inner : ∀ group ∈ groups, (group.evaluate application).passed = true →
        (group.evaluate better).passed = true :=
      fun group member => ih group member fun rule below =>
        more rule (mem_flatten.mpr (.inr ⟨group, member, below⟩))
    cases logic with
    | all =>
      rw [passed_all_iff] at passed ⊢
      exact ⟨fun rule member => own rule member (passed.1 rule member),
        fun group member => inner group member (passed.2 group member)⟩
    | any =>
      rw [passed_any_iff] at passed ⊢
      rcases passed with ⟨rule, member, passes⟩ | ⟨group, member, passes⟩
      · exact .inl ⟨rule, member, own rule member passes⟩
      · exact .inr ⟨group, member, inner group member passes⟩

/-- In a tree that asks for all, the verdict says whether every rule passed. -/
theorem AsksForAll.passed_iff {tree : RuleTree Rule} (asks : tree.AsksForAll) :
    (tree.evaluate application).passed = true ↔
      ∀ rule ∈ tree.flatten, (rule.evaluate application).passed = true := by
  induction tree using groupInduction with
  | group logic rules groups ih =>
    obtain ⟨rfl, inner⟩ := throughout_iff.mp asks
    simp only [passed_all_iff, mem_flatten]
    constructor
    · rintro ⟨own, below⟩ rule (member | ⟨group, member, deeper⟩)
      · exact own rule member
      · exact (ih group member (inner group member)).mp (below group member) rule deeper
    · intro all
      refine ⟨fun rule member => all rule (.inl member), fun group member => ?_⟩
      exact (ih group member (inner group member)).mpr fun rule deeper =>
        all rule (.inr ⟨group, member, deeper⟩)

/-- Trees that ask for all are told apart by their rules in pre-order and by nothing else. -/
theorem AsksForAll.evaluate_eq {tree other : RuleTree Rule} (asks : tree.AsksForAll)
    (also : other.AsksForAll) (same : other.flatten = tree.flatten) (application : Application) :
    other.evaluate application = tree.evaluate application := by
  have outcomes : (other.evaluate application).outcomes = (tree.evaluate application).outcomes := by
    rw [outcomes_evaluate, outcomes_evaluate, same]
  have verdict : (other.evaluate application).passed = (tree.evaluate application).passed := by
    rw [Bool.eq_iff_iff, also.passed_iff, asks.passed_iff, same]
  calc other.evaluate application
      = ⟨(other.evaluate application).outcomes, (other.evaluate application).passed⟩ := rfl
    _ = tree.evaluate application := by rw [outcomes, verdict]

/-- Where no group asks for any of no members, an applicant who passes every rule gets a favourable
verdict. -/
theorem IsPopulated.passed_of_rules {tree : RuleTree Rule} (populated : tree.IsPopulated .any)
    (all : ∀ rule ∈ tree.flatten, (rule.evaluate application).passed = true) :
    (tree.evaluate application).passed = true := by
  induction tree using groupInduction with
  | group logic rules groups ih =>
    obtain ⟨here, inner⟩ := throughout_iff.mp populated
    have own : ∀ rule ∈ rules, (rule.evaluate application).passed = true :=
      fun rule member => all rule (mem_flatten.mpr (.inl member))
    have below : ∀ group ∈ groups, (group.evaluate application).passed = true :=
      fun group member => ih group member (inner group member) fun rule deeper =>
        all rule (mem_flatten.mpr (.inr ⟨group, member, deeper⟩))
    cases logic with
    | all => exact passed_all_iff.mpr ⟨own, below⟩
    | any =>
      refine passed_any_iff.mpr ((here rfl).imp ?_ ?_) <;> intro some_member
      · obtain ⟨rule, member⟩ := List.exists_mem_of_ne_nil _ some_member
        exact ⟨rule, member, own rule member⟩
      · obtain ⟨group, member⟩ := List.exists_mem_of_ne_nil _ some_member
        exact ⟨group, member, below group member⟩

/-- Where no group asks for all of no members, an applicant with a favourable verdict has passed a
rule. -/
theorem IsPopulated.exists_rule_of_passed {tree : RuleTree Rule}
    (populated : tree.IsPopulated .all) (passed : (tree.evaluate application).passed = true) :
    ∃ rule ∈ tree.flatten, (rule.evaluate application).passed = true := by
  induction tree using groupInduction with
  | group logic rules groups ih =>
    obtain ⟨here, inner⟩ := throughout_iff.mp populated
    have own : (∃ rule ∈ rules, (rule.evaluate application).passed = true) →
        ∃ rule ∈ flatten ⟨logic, rules, groups⟩, (rule.evaluate application).passed = true := by
      rintro ⟨rule, member, passes⟩
      exact ⟨rule, mem_flatten.mpr (.inl member), passes⟩
    have below : (∃ group ∈ groups, (group.evaluate application).passed = true) →
        ∃ rule ∈ flatten ⟨logic, rules, groups⟩, (rule.evaluate application).passed = true := by
      rintro ⟨group, member, passes⟩
      obtain ⟨rule, deeper, passes⟩ := ih group member (inner group member) passes
      exact ⟨rule, mem_flatten.mpr (.inr ⟨group, member, deeper⟩), passes⟩
    cases logic with
    | any => exact (passed_any_iff.mp passed).elim own below
    | all =>
      obtain ⟨rules_pass, groups_pass⟩ := passed_all_iff.mp passed
      rcases here rfl with some_member | some_member
      · obtain ⟨rule, member⟩ := List.exists_mem_of_ne_nil _ some_member
        exact own ⟨rule, member, rules_pass rule member⟩
      · obtain ⟨group, member⟩ := List.exists_mem_of_ne_nil _ some_member
        exact below ⟨group, member, groups_pass group member⟩

end Trees

end RuleTree

/-- An eligible applicant has a favourable verdict on the hard rules, unless a group among these
asks for any of no members. -/
theorem CompiledPolicy.hardPassed_of_eligible {policy : CompiledPolicy}
    (populated : policy.hardRules.IsPopulated .any) {program : LenderProgram}
    {application : Application} (eligible : (policy.evaluate program application).eligible = true) :
    (policy.evaluate program application).ruleResults.hardPassed = true := by
  have all := ((policy.eligible_evaluate_iff program application).mp eligible).1
  exact populated.passed_of_rules (RuleTree.forall_outcomes_iff.mp all)

namespace RuleTree

/-- A favourable verdict does not turn for an applicant who passes more rules. In a tree that asks
for all it says whether every outcome passed, so trees of this kind with the same rules in pre-order
have the same outcomes and the same verdict. If no group asks for any of no members, it follows from
all outcomes having passed, and an eligible applicant has it for the hard rules. If no group asks
for all of no members, some outcome passed where it is given. -/
theorem verdict_follows_outcomes (tree : RuleTree Rule) (application : Application) :
    (∀ better : Application,
      (∀ rule ∈ tree.flatten, (rule.evaluate application).passed = true →
        (rule.evaluate better).passed = true) →
      (tree.evaluate application).passed = true → (tree.evaluate better).passed = true) ∧
    (tree.AsksForAll →
      ((tree.evaluate application).passed = true ↔
        ∀ outcome ∈ (tree.evaluate application).outcomes, outcome.passed = true) ∧
      ∀ other : RuleTree Rule, other.AsksForAll → other.flatten = tree.flatten →
        other.evaluate application = tree.evaluate application) ∧
    (tree.IsPopulated .any →
      ((∀ outcome ∈ (tree.evaluate application).outcomes, outcome.passed = true) →
        (tree.evaluate application).passed = true) ∧
      ∀ policy : CompiledPolicy, policy.hardRules = tree → ∀ program,
        (policy.evaluate program application).eligible = true →
          (policy.evaluate program application).ruleResults.hardPassed = true) ∧
    (∀ (policy : Policy) compiled, policy.compile = .ok compiled →
      policy.hardRules.IsPopulated .any → ∀ program,
        (compiled.evaluate program application).eligible = true →
          (compiled.evaluate program application).ruleResults.hardPassed = true) ∧
    (tree.IsPopulated .all → (tree.evaluate application).passed = true →
      ∃ outcome ∈ (tree.evaluate application).outcomes, outcome.passed = true) := by
  refine ⟨fun better => tree.passed_mono, ?_, ?_, ?_, ?_⟩
  · intro asks
    refine ⟨?_, fun other also same => asks.evaluate_eq also same application⟩
    rw [forall_outcomes_iff, asks.passed_iff]
  · intro populated
    refine ⟨fun all => populated.passed_of_rules (forall_outcomes_iff.mp all), ?_⟩
    rintro policy rfl program
    exact CompiledPolicy.hardPassed_of_eligible populated
  · intro policy compiled success populated program
    have shape := (Policy.compilesTo_of_compile success).hardShape
    exact CompiledPolicy.hardPassed_of_eligible (isPopulated_of_shape shape.symm populated)
  · intro populated passed
    obtain ⟨rule, member, passes⟩ := populated.exists_rule_of_passed passed
    rw [outcomes_evaluate]
    exact ⟨_, List.mem_map_of_mem member, passes⟩

/-- The groups without members, whose verdicts no outcome accounts for. -/
example (application : Application) :
    evaluate application ⟨.any, [], []⟩ = ⟨[], false⟩ ∧
      evaluate application ⟨.all, [], []⟩ = ⟨[], true⟩ := ⟨rfl, rfl⟩

/-- A floor that everyone has to reach, and above it either a high mark or, in a group of its own, a
low one. -/
def tiered {α : Type} (floor high low : α) : RuleTree α :=
  ⟨.all, [floor], [⟨.any, [high], [⟨.all, [low], []⟩]⟩]⟩

theorem isPopulated_tiered {α : Type} (logic : GroupLogic) (floor high low : α) :
    (tiered floor high low).IsPopulated logic := by
  simp [tiered, IsPopulated, throughout_iff]

/-- The least credit score of the primary guarantor. -/
def leastFico (id : String) (least : Nat) : Rule :=
  ⟨id, .minValue (.ofNat least), ⟨"guarantors[0].fico_score", [⟨"guarantors", some 0⟩,
    ⟨"fico_score", none⟩]⟩, .guarantor 0 .ficoScore, .hard, ""⟩

/-- Marks for the credit score. -/
def tieredFico : RuleTree Rule :=
  tiered (leastFico "floor" 600) (leastFico "high" 700) (leastFico "low" 650)

/-- The same marks, all of which have to be reached. -/
def strictFico : RuleTree Rule :=
  ⟨.all, [leastFico "floor" 600],
    [⟨.all, [leastFico "high" 700], [⟨.all, [leastFico "low" 650], []⟩]⟩]⟩

/-- A policy with the marks as hard rules. -/
def tieredPolicy : Policy :=
  ⟨⟨1⟩, 1, true, tiered (Seed.minFico "floor" 600 .hard) (Seed.minFico "high" 700 .hard)
    (Seed.minFico "low" 650 .hard), .empty, .standard⟩

private theorem compile_tiered : tieredPolicy.compile.toOption.map (fun compiled =>
    (compiled.evaluate ⟨⟨1⟩, ⟨1⟩, "Standard", 10000, 500000, 24, 60⟩
      (Seed.application 50000 36 720)).eligible) = some true := by
  decide +kernel

/-- The verdict of the tiered marks goes by the low one, which an applicant with more points reaches
too. -/
theorem verdict_follows_outcomes_tiered :
    let applicant := Seed.application 50000 36
    (tieredFico.evaluate (applicant 660)).outcomes.map (·.passed) = [true, false, true] ∧
      (tieredFico.evaluate (applicant 660)).passed = true ∧
      (tieredFico.evaluate (applicant 690)).passed = true ∧
      (∃ outcome ∈ (tieredFico.evaluate (applicant 660)).outcomes, outcome.passed = true) ∧
      (tieredFico.evaluate (applicant 720)).passed = true ∧
      strictFico.AsksForAll ∧ (strictFico.evaluate (applicant 690)).passed = false ∧
      evaluate (applicant 690) ⟨.all, strictFico.flatten, []⟩ =
        strictFico.evaluate (applicant 690) ∧
      ∃ compiled, tieredPolicy.compile = .ok compiled ∧
        (compiled.evaluate ⟨⟨1⟩, ⟨1⟩, "Standard", 10000, 500000, 24, 60⟩
          (applicant 720)).ruleResults.hardPassed = true := by
  intro applicant
  have passed : (tieredFico.evaluate (applicant 660)).passed = true := by decide +kernel
  have more : ∀ rule ∈ tieredFico.flatten, (rule.evaluate (applicant 660)).passed = true →
      (rule.evaluate (applicant 690)).passed = true := by decide +kernel
  have strict : strictFico.AsksForAll := by
    simp [strictFico, AsksForAll, throughout_iff]
  have flat : AsksForAll (⟨.all, strictFico.flatten, []⟩ : RuleTree Rule) := by
    simp [AsksForAll, throughout_iff]
  obtain ⟨monotone, -, -, -, some_passed⟩ := verdict_follows_outcomes tieredFico (applicant 660)
  obtain ⟨-, -, fromOutcomes, ofPolicy, -⟩ := verdict_follows_outcomes tieredFico (applicant 720)
  obtain ⟨-, exact, -, -, -⟩ := verdict_follows_outcomes strictFico (applicant 690)
  refine ⟨by decide +kernel, passed, monotone (applicant 690) more passed,
    some_passed (isPopulated_tiered _ _ _ _) passed,
    (fromOutcomes (isPopulated_tiered _ _ _ _)).1 (by decide +kernel), strict, ?_, ?_, ?_⟩
  · rw [← Bool.not_eq_true, (exact strict).1]
    decide +kernel
  · exact (exact strict).2 _ flat (by simp [flatten, flattenAll])
  · have evaluated := compile_tiered
    cases compiles : tieredPolicy.compile with
    | error error =>
      rw [compiles] at evaluated
      cases evaluated
    | ok compiled =>
      rw [compiles] at evaluated
      exact ⟨compiled, rfl, ofPolicy tieredPolicy compiled compiles (isPopulated_tiered _ _ _ _) _
        (Option.some.inj evaluated)⟩

end RuleTree

end Underwriting
