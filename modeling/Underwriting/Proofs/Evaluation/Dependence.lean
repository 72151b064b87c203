import Underwriting.Directory.Seed
import Underwriting.Evaluation.Engine
import Underwriting.Proofs.Number.Equality
import Underwriting.Proofs.Policy.Pass

/-! # What a decision depends on

A rule reads its own field, and of the value it looks at the place among the numbers, the canonical
text or the flag. Groups and scores only see what became of the rules. So two applications in which
every rule of a policy finds alike values, or none in both, get the same result, whatever else is
different in them.
-/

namespace Underwriting

/-- Values that are the same, or numbers that are numerically equal, or both of them no number. -/
inductive FieldValue.Alike : FieldValue → FieldValue → Prop
  | same (value : FieldValue) : Alike value value
  | numbers {first second : Binary64} :
      first.sameValue second = true → Alike (.number first) (.number second)
  | notNumbers (negative other : Bool) (code further : NanCode) :
      Alike (.number (.nan negative code)) (.number (.nan other further))

/-- The field has alike values in two applications, or none in both. -/
def FieldTarget.ReadsAlike (target : FieldTarget) (first second : Application) : Prop :=
  Option.Rel FieldValue.Alike (target.read? first) (target.read? second)

/-- What a rule asks of a number is answered by its place and its canonical text. -/
private theorem RuleKind.check_number_eq {first second : Binary64}
    (placed : first.place? = second.place?)
    (texts : canonicalNumber first = canonicalNumber second) (kind : RuleKind) :
    kind.check (.number first) = kind.check (.number second) := by
  cases kind with
  | minValue least =>
    simp only [check, Check.numeric, FieldValue.number?, Binary64.atMost_congr rfl placed]
  | maxValue greatest =>
    simp only [check, Check.numeric, FieldValue.number?, Binary64.atMost_congr placed rfl]
  | range least greatest =>
    simp only [check, Check.numeric, FieldValue.number?, Binary64.atMost_congr rfl placed,
      Binary64.atMost_congr placed rfl]
  | inList entries | notInList entries => simp only [check, FieldValue.canonical, texts]
  | booleanIsTrue => rfl

/-- Alike values give one answer to every question. -/
theorem RuleKind.check_eq {first second : FieldValue} (alike : first.Alike second)
    (kind : RuleKind) : kind.check first = kind.check second := by
  cases alike with
  | same => rfl
  | numbers same =>
    obtain ⟨place, placed, alsoPlaced⟩ := Binary64.exists_place?_of_sameValue same
    exact kind.check_number_eq (placed.trans alsoPlaced.symm)
      (Binary64.canonicalNumber_eq_of_sameValue same)
  | notNumbers => exact kind.check_number_eq rfl rfl

variable {first second : Application}

/-- A rule depends on the value of its field. -/
theorem Rule.evaluate_eq {rule : Rule} (alike : rule.target.ReadsAlike first second) :
    rule.evaluate first = rule.evaluate second := by
  unfold FieldTarget.ReadsAlike at alike
  unfold evaluate
  generalize rule.target.read? first = left at alike ⊢
  generalize rule.target.read? second = right at alike ⊢
  cases alike with
  | none => rfl
  | some values => simp only [RuleKind.check_eq values]

namespace RuleTree

mutual

/-- A tree depends on the values of the fields of its rules. -/
theorem evaluate_eq : (tree : RuleTree Rule) →
    (∀ rule ∈ tree.flatten, rule.target.ReadsAlike first second) →
      tree.evaluate first = tree.evaluate second
  | ⟨logic, rules, groups⟩, alike => by
    obtain ⟨own, inner⟩ := List.forall_mem_append.mp alike
    have outcomes : (rules.map fun rule => rule.evaluate first) =
        rules.map fun rule => rule.evaluate second :=
      List.map_congr_left fun rule member => Rule.evaluate_eq (own rule member)
    simp only [evaluate, outcomes, evaluateAll_eq groups inner]

theorem evaluateAll_eq : (trees : List (RuleTree Rule)) →
    (∀ rule ∈ flattenAll trees, rule.target.ReadsAlike first second) →
      evaluateAll first trees = evaluateAll second trees
  | [], _ => rfl
  | group :: rest, alike => by
    obtain ⟨here, others⟩ := List.forall_mem_append.mp alike
    rw [evaluateAll, evaluateAll, evaluate_eq group here, evaluateAll_eq rest others]

end

end RuleTree

namespace CompiledPolicy

/-- A result depends on the values of the fields that the rules of the policy name, and on nothing
else in the application. -/
theorem evaluate_depends_on_fields (policy : CompiledPolicy) (program : LenderProgram)
    (alike : ∀ rule ∈ policy.rules, rule.target.ReadsAlike first second) :
    policy.evaluate program first = policy.evaluate program second := by
  obtain ⟨hard, soft⟩ := List.forall_mem_append.mp alike
  simp only [evaluate, RuleTree.evaluate_eq policy.hardRules hard,
    RuleTree.evaluate_eq policy.softRules soft]

/-- A policy with two hard rules, of which the second stands in an inner group, and a soft rule
that asks for a flag. -/
def nested : CompiledPolicy where
  program := ⟨1⟩
  version := 1
  hardRules := ⟨.any,
    [⟨"fico", .minValue 700, ⟨"guarantors[0].fico_score", [⟨"guarantors", some 0⟩,
      ⟨"fico_score", none⟩]⟩, .guarantor 0 .ficoScore, .hard, ""⟩],
    [⟨.all, [⟨"new", .inList ["0"], ⟨"borrower.years_in_business", [⟨"borrower", none⟩,
      ⟨"years_in_business", none⟩]⟩, .borrower .yearsInBusiness, .hard, ""⟩], []⟩]⟩
  softRules := ⟨.all,
    [⟨"license", .booleanIsTrue, ⟨"borrower.medical_license_flag", [⟨"borrower", none⟩,
      ⟨"medical_license_flag", none⟩]⟩, .borrower .medicalLicense, .soft, ""⟩], []⟩
  scoring := ⟨100, 60, [⟨"license", 50⟩]⟩

/-- The sample application of a new business. -/
def newBusiness : Application :=
  let sample := Seed.application 50000 36 690
  { sample with borrower := { sample.borrower with yearsInBusiness := 0 } }

/-- An application of another business, for another loan and with a second guarantor, in which the
zero has the other sign. -/
def otherBusiness : Application where
  borrower := ⟨"Prairie Dental PLLC", "Healthcare", "CA", -0, 900000, none, none⟩
  guarantors := newBusiness.guarantors ++ [⟨"Sam Ortiz", 810, none, true, none⟩]
  loanRequest := ⟨75000, 60, "Scanner", 80000, 2024, "Coast Imaging", "New"⟩

theorem evaluate_depends_on_fields_nested :
    (∀ rule ∈ nested.rules, rule.target.ReadsAlike newBusiness otherBusiness) ∧
      newBusiness.borrower ≠ otherBusiness.borrower ∧
      nested.evaluate ⟨⟨1⟩, ⟨1⟩, "Standard", 10000, 500000, 24, 60⟩ newBusiness =
        nested.evaluate ⟨⟨1⟩, ⟨1⟩, "Standard", 10000, 500000, 24, 60⟩ otherBusiness := by
  have alike : ∀ rule ∈ nested.rules, rule.target.ReadsAlike newBusiness otherBusiness := by
    simp only [nested, rules, RuleTree.flatten, RuleTree.flattenAll, List.append_nil,
      List.cons_append, List.nil_append, List.forall_mem_cons, List.not_mem_nil, false_implies,
      implies_true, and_true]
    exact ⟨.some (.same _), .some (.numbers (by decide +kernel)), .none⟩
  exact ⟨alike, by decide +kernel, evaluate_depends_on_fields nested _ alike⟩

end CompiledPolicy

end Underwriting
