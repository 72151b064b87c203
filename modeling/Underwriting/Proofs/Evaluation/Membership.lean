import Underwriting.Proofs.Evaluation.Resolution
import Underwriting.Proofs.Number.CanonicalText

/-! # Numbers in lists

A list of a rule holds texts, and a value is looked up by its text. For numbers this comes to the
same as comparing them: a finite number is found exactly if one of the entries that were authored
stands for a number equal to it, however each of them is spelled.
-/

namespace Underwriting

namespace RuleDefinition

variable {definition : RuleDefinition} {rule : Rule} {raw : String} {application : Application}
  {entries : List Json} {texts : List String} {value : Binary64}

theorem mem_texts_iff (read : listEntries entries = .ok texts) {text : String} :
    text ∈ texts ↔ ∃ entry ∈ entries, listEntry entry = .ok text := by
  induction entries generalizing texts with
  | nil =>
    cases read
    simp
  | cons entry rest ih =>
    simp only [listEntries] at read
    cases first : listEntry entry with
    | error defect =>
      rw [first] at read
      cases read
    | ok written =>
      rw [first] at read
      obtain ⟨others, alsoRead, rfl⟩ := exists_of_map_eq_ok read
      simp [ih alsoRead, first, eq_comm]

theorem listEntry_of_number? {entry : Json} {number : Binary64}
    (isNumber : entry.number? = some number) : listEntry entry = .ok (canonicalNumber number) := by
  cases entry <;> cases isNumber <;> rfl

/-- In a list of numbers a number is found if one of them is equal to it. -/
theorem canonicalNumber_mem_iff (read : listEntries entries = .ok texts)
    (numbers : ∀ entry ∈ entries, entry.number?.isSome = true) (finite : value.isFinite = true) :
    canonicalNumber value ∈ texts ↔ ∃ entry ∈ entries, ∃ number, entry.number? = some number ∧
      number.sameValue value = true := by
  rw [mem_texts_iff read]
  refine exists_congr fun entry => and_congr_right fun listed => ?_
  obtain ⟨number, isNumber⟩ := Option.isSome_iff_exists.mp (numbers entry listed)
  rw [listEntry_of_number? isNumber, isNumber]
  simp only [Except.ok.injEq, Option.some.injEq, exists_eq_left',
    Binary64.canonicalNumber_eq_iff finite]

/-- Finite numbers have one canonical text exactly if they are numerically equal, that is if they
count the same units, so that the two zeros have one text. A rule about a list of numbers that finds
a finite number in its field asks whether one of the entries, or none of them, is equal to it. -/
theorem lists_compare_numbers :
    (∀ first second : Binary64, first.isFinite = true → second.isFinite = true →
      (canonicalNumber first = canonicalNumber second ↔ first.sameValue second = true) ∧
      (first.sameValue second = true ↔ first.units? = second.units?)) ∧
    ∀ (definition : RuleDefinition) (rule : Rule) (raw : String) (entries : List Json)
        (application : Application) (value : Binary64),
      definition.Becomes rule → definition.field? = some raw → definition.HasList entries →
      (∀ entry ∈ entries, entry.number?.isSome = true) →
      resolveField raw application = .ok (.number value) → value.isFinite = true →
      (definition.typeName = "IN_LIST" →
        ((rule.evaluate application).passed = true ↔
          ∃ entry ∈ entries, ∃ number, entry.number? = some number ∧
            number.sameValue value = true)) ∧
      (definition.typeName = "NOT_IN_LIST" →
        ((rule.evaluate application).passed = true ↔
          ∀ entry ∈ entries, ∀ number, entry.number? = some number →
            number.sameValue value = false)) := by
  refine ⟨fun first second finite alsoFinite => ?_, ?_⟩
  · exact ⟨Binary64.canonicalNumber_eq_iff alsoFinite,
      Binary64.sameValue_iff_units? finite alsoFinite⟩
  · intro definition rule raw entries application value becomes given has numbers resolved finite
    have found := (becomes.resolveField_eq_ok_iff given).mp resolved
    rw [Rule.passed_evaluate_iff_of_found found]
    refine ⟨fun named => ?_, fun named => ?_⟩
    · obtain ⟨texts, read, asks⟩ := becomes.kind_of_inList named has
      rw [asks]
      exact canonicalNumber_mem_iff read numbers finite
    · obtain ⟨texts, read, asks⟩ := becomes.kind_of_notInList named has
      rw [asks]
      refine (not_congr (canonicalNumber_mem_iff read numbers finite)).trans ?_
      simp only [not_exists, not_and, Bool.not_eq_true]

/-- Revenues of which the first lies halfway between two numbers, and the second is the zero with
the sign. -/
def figures : List Json := [.integer 9007199254740993, .float (-0)]

/-- The revenue is one of the figures. -/
def listed : RuleDefinition :=
  Seed.hard "listed" "IN_LIST" "borrower.annual_revenue" [("list", .array figures)] ""

/-- The revenue is none of the figures. -/
def unlisted : RuleDefinition :=
  Seed.hard "unlisted" "NOT_IN_LIST" "borrower.annual_revenue" [("list", .array figures)] ""

/-- The sample application of a business with a revenue. -/
def earning (revenue : Binary64) : Application :=
  let sample := Seed.application 50000 36 690
  { sample with borrower := { sample.borrower with annualRevenue := revenue } }

/-- An integer is found as the number nearest to it, and the zero without the sign as the other
one. -/
theorem lists_compare_numbers_figures :
    ∃ rule other, listed.Becomes rule ∧ unlisted.Becomes other ∧
      (rule.evaluate (earning 9007199254740992)).passed = true ∧
      ¬ (other.evaluate (earning 0)).passed = true := by
  let revenue : FieldPath :=
    ⟨"borrower.annual_revenue", [⟨"borrower", none⟩, ⟨"annual_revenue", none⟩]⟩
  let rule : Rule := ⟨"listed", .inList ["9007199254740992", "0"], revenue,
    .borrower .annualRevenue, .hard, ""⟩
  let other : Rule := ⟨"unlisted", .notInList ["9007199254740992", "0"], revenue,
    .borrower .annualRevenue, .hard, ""⟩
  have becomes : listed.Becomes rule := becomes_of_toOption .hard (by decide +kernel)
  have alsoBecomes : unlisted.Becomes other := becomes_of_toOption .hard (by decide +kernel)
  have numbers : ∀ entry ∈ figures, entry.number?.isSome = true := by decide
  refine ⟨rule, other, becomes, alsoBecomes, ?_, ?_⟩
  · have asks := (lists_compare_numbers.2 listed rule _ figures (earning 9007199254740992) _ becomes
      rfl rfl numbers ((becomes.resolveField_eq_ok_iff rfl).mpr rfl) (by decide +kernel)).1
    refine (asks (by decide)).mpr ⟨_, List.mem_cons_self, _, rfl, ?_⟩
    decide +kernel
  · have asks := (lists_compare_numbers.2 unlisted other _ figures (earning 0) _ alsoBecomes
      rfl rfl numbers ((alsoBecomes.resolveField_eq_ok_iff rfl).mpr rfl) (by decide +kernel)).2
    intro passed
    have differs := (asks (by decide)).mp passed (.float (-0)) (by simp [figures]) _ rfl
    revert differs
    decide +kernel

end RuleDefinition

end Underwriting
