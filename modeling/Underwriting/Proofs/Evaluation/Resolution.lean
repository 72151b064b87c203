import Underwriting.Directory.Seed
import Underwriting.Evaluation.Rules
import Underwriting.Proofs.Field.Grammar
import Underwriting.Proofs.Policy.RuleDefects

/-! # Rules and the resolver

The field of a rule is bound when its definition is compiled, and what a rule says of an application
is what resolving the authored path there calls for: a path that resolves to nothing is reported as
such, a value of the wrong type as that, and any other value passes exactly if what the rule asks
holds of it. So rules about one field can be compared by what they ask: a range is both of its ends,
and two lists of the same entries, one of them of what is excluded, part the values between them.
-/

namespace Underwriting

namespace RuleKind

/-- The value is such as is asked for. -/
def Holds (value : FieldValue) : RuleKind → Prop
  | .minValue least => ∃ number, value = .number number ∧ least.atMost number = true
  | .maxValue greatest => ∃ number, value = .number number ∧ number.atMost greatest = true
  | .range least greatest =>
    ∃ number, value = .number number ∧ least.atMost number = true ∧ number.atMost greatest = true
  | .inList entries => value.canonical ∈ entries
  | .notInList entries => value.canonical ∉ entries
  | .booleanIsTrue => value = .flag true

/-- It is a number that is asked for. -/
inductive IsNumeric : RuleKind → Prop
  | minValue (least : Binary64) : IsNumeric (.minValue least)
  | maxValue (greatest : Binary64) : IsNumeric (.maxValue greatest)
  | range (least greatest : Binary64) : IsNumeric (.range least greatest)

/-- The value is of the type that is asked for. Lists are about values of any type. -/
structure Suits (kind : RuleKind) (value : FieldValue) : Prop where
  number : kind.IsNumeric → value.number? ≠ none
  flag : kind = .booleanIsTrue → value.flag? ≠ none

variable {kind : RuleKind} {value : FieldValue}

section Checks

private theorem ofBool_eq_pass_iff {passed : Bool} :
    Check.ofBool passed = .pass ↔ passed = true := by
  cases passed <;> decide

private theorem numeric_eq_pass_iff {asked : Binary64 → Bool} :
    Check.numeric value asked = .pass ↔
      ∃ number, value = .number number ∧ asked number = true := by
  cases value <;> simp [Check.numeric, FieldValue.number?, ofBool_eq_pass_iff]

theorem check_eq_pass_iff : kind.check value = .pass ↔ kind.Holds value := by
  cases kind with
  | minValue | maxValue => exact numeric_eq_pass_iff
  | range => simp only [check, Holds, numeric_eq_pass_iff, Bool.and_eq_true]
  | inList | notInList => simp [check, Holds, ofBool_eq_pass_iff]
  | booleanIsTrue => cases value <;> simp [check, Holds, FieldValue.flag?, ofBool_eq_pass_iff]

private theorem ofBool_cases (passed : Bool) :
    Check.ofBool passed = .pass ∨ Check.ofBool passed = .fail := by
  cases passed with
  | true => exact .inl rfl
  | false => exact .inr rfl

/-- A value of the type that is asked for gets a yes or a no. -/
theorem Suits.check (suits : kind.Suits value) :
    kind.check value = .pass ∨ kind.check value = .fail := by
  cases kind with
  | minValue | maxValue | range =>
    obtain ⟨number, isNumber⟩ := Option.ne_none_iff_exists'.mp (suits.number (by constructor))
    simp only [RuleKind.check, Check.numeric, isNumber]
    exact ofBool_cases _
  | inList | notInList => exact ofBool_cases _
  | booleanIsTrue =>
    obtain ⟨flag, isFlag⟩ := Option.ne_none_iff_exists'.mp (suits.flag rfl)
    simp only [RuleKind.check, isFlag]
    exact ofBool_cases _

theorem IsNumeric.check (numeric : kind.IsNumeric) (other : value.number? = none) :
    kind.check value = .notNumeric := by
  cases numeric <;> simp only [RuleKind.check, Check.numeric, other]

theorem check_booleanIsTrue (other : value.flag? = none) :
    booleanIsTrue.check value = .notBoolean := by
  simp only [check, other]

/-- A value has the type that is asked for, or there is one of two things to say about it. -/
theorem suits_cases (kind : RuleKind) (value : FieldValue) :
    kind.Suits value ∨ kind.IsNumeric ∧ value.number? = none ∨
      kind = .booleanIsTrue ∧ value.flag? = none := by
  by_cases notNumber : kind.IsNumeric ∧ value.number? = none
  · exact .inr (.inl notNumber)
  by_cases notFlag : kind = .booleanIsTrue ∧ value.flag? = none
  · exact .inr (.inr notFlag)
  exact .inl ⟨fun numeric other => notNumber ⟨numeric, other⟩,
    fun boolean other => notFlag ⟨boolean, other⟩⟩

end Checks

end RuleKind

namespace Rule

variable {rule : Rule} {application : Application} {value : FieldValue}

theorem evaluate_of_absent (absent : rule.target.read? application = none) :
    rule.evaluate application =
      rule.failedOutcome ("field '" ++ rule.field.text ++ "' not found") := by
  simp only [evaluate, absent]

theorem evaluate_of_holds (found : rule.target.read? application = some value)
    (holds : rule.kind.Holds value) : rule.evaluate application = rule.passedOutcome := by
  simp only [evaluate, found, RuleKind.check_eq_pass_iff.mpr holds]

theorem evaluate_of_not_holds (found : rule.target.read? application = some value)
    (suits : rule.kind.Suits value) (fails : ¬ rule.kind.Holds value) :
    rule.evaluate application = rule.failedOutcome rule.failureMessage := by
  have failed := suits.check.resolve_left (mt RuleKind.check_eq_pass_iff.mp fails)
  simp only [evaluate, found, failed]

theorem evaluate_of_not_number (found : rule.target.read? application = some value)
    (numeric : rule.kind.IsNumeric) (other : value.number? = none) :
    rule.evaluate application =
      rule.failedOutcome ("field '" ++ rule.field.text ++ "' is not numeric") := by
  simp only [evaluate, found, numeric.check other]

theorem evaluate_of_not_flag (found : rule.target.read? application = some value)
    (boolean : rule.kind = .booleanIsTrue) (other : value.flag? = none) :
    rule.evaluate application =
      rule.failedOutcome ("field '" ++ rule.field.text ++ "' is not a boolean") := by
  simp only [evaluate, found, boolean, RuleKind.check_booleanIsTrue other]

/-- A rule passes exactly if there is a value for it, and one such as it asks for. -/
theorem passed_evaluate_iff : (rule.evaluate application).passed = true ↔
    ∃ value, rule.target.read? application = some value ∧ rule.kind.Holds value := by
  cases found : rule.target.read? application with
  | none => simp [evaluate, found, failedOutcome]
  | some value =>
    simp only [evaluate, found, Option.some.injEq, exists_eq_left', ← RuleKind.check_eq_pass_iff]
    cases rule.kind.check value <;> simp [passedOutcome, failedOutcome]

theorem passed_evaluate_iff_of_found (found : rule.target.read? application = some value) :
    (rule.evaluate application).passed = true ↔ rule.kind.Holds value := by
  simp only [passed_evaluate_iff, found, Option.some.injEq, exists_eq_left']

end Rule

section Messages

theorem RuleKind.exists_describe_eq (kind : RuleKind) (field : FieldPath) :
    ∃ rest, (kind.describe field).toList = field.text.toList ++ ' ' :: 'm' :: rest := by
  cases kind <;> simp [describe, String.toList_append]

/-- What a rule asks is said of a path, which has no blanks in it: up to the first blank stands the
path, and what follows is not what follows in the report of an absence. -/
theorem RuleKind.describe_ne_absent {field : FieldPath} (plain : ' ' ∉ field.text.toList)
    (kind : RuleKind) : kind.describe field ≠ "field '" ++ field.text ++ "' not found" := by
  intro same
  obtain ⟨rest, described⟩ := kind.exists_describe_eq field
  have reported : (kind.describe field).toList =
      ['f', 'i', 'e', 'l', 'd'] ++ ' ' :: '\'' :: (field.text ++ "' not found").toList := by
    simp [same, String.toList_append]
  have pieces := congrArg (splitOn ' ') (described.symm.trans reported)
  rw [splitOn_append_cons plain, splitOn_append_cons (by decide)] at pieces
  rw [described, (List.cons.inj pieces).1] at reported
  cases List.append_cancel_left reported

variable {rule : Rule} {application : Application}

theorem Rule.failedOutcome_inj {message other : String} :
    rule.failedOutcome message = rule.failedOutcome other ↔ message = other := by
  simp only [failedOutcome, RuleOutcome.mk.injEq, Option.some.injEq, true_and]

theorem Rule.failureMessage_eq_absent_iff (plain : ' ' ∉ rule.field.text.toList) :
    rule.failureMessage = "field '" ++ rule.field.text ++ "' not found" ↔
      rule.message = "field '" ++ rule.field.text ++ "' not found" := by
  unfold failureMessage
  split
  case isTrue blank =>
    have described := rule.kind.describe_ne_absent plain
    have blank := String.isEmpty_iff.mp blank
    simp only [described, blank, false_iff]
    intro same
    have characters := congrArg String.toList same
    simp [String.toList_append] at characters
  case isFalse => rfl

/-- A rule reports an absence if there is one, or if it was authored to say so of a value that is
not such as it asks for. -/
theorem Rule.evaluate_eq_absent_iff (plain : ' ' ∉ rule.field.text.toList) :
    rule.evaluate application =
        rule.failedOutcome ("field '" ++ rule.field.text ++ "' not found") ↔
      rule.target.read? application = none ∨
        rule.message = "field '" ++ rule.field.text ++ "' not found" ∧
          ∃ value, rule.target.read? application = some value ∧ rule.kind.Suits value ∧
            ¬ rule.kind.Holds value := by
  cases found : rule.target.read? application with
  | none => simp only [evaluate_of_absent found, true_or]
  | some value =>
    simp only [Option.some.injEq, exists_eq_left', reduceCtorEq, false_or]
    rcases rule.kind.suits_cases value with suits | ⟨numeric, other⟩ | ⟨boolean, other⟩
    · by_cases holds : rule.kind.Holds value
      · simp [evaluate_of_holds found holds, holds, passedOutcome, failedOutcome]
      · simp only [evaluate_of_not_holds found suits holds, failedOutcome_inj,
          failureMessage_eq_absent_iff plain, suits, holds, not_false_eq_true, and_true]
    · have unsuited : ¬ rule.kind.Suits value := fun suits => suits.number numeric other
      simp only [evaluate_of_not_number found numeric other, failedOutcome_inj,
        String.append_right_inj, unsuited, false_and, and_false, iff_false]
      decide
    · have unsuited : ¬ rule.kind.Suits value := fun suits => suits.flag boolean other
      simp only [evaluate_of_not_flag found boolean other, failedOutcome_inj,
        String.append_right_inj, unsuited, false_and, and_false, iff_false]
      decide

end Messages

namespace RuleDefinition

variable {definition : RuleDefinition} {rule : Rule} {raw : String} {application : Application}

/-- The definition becomes the rule, in a tree of some severity and after some other rules. -/
def Becomes (definition : RuleDefinition) (rule : Rule) : Prop :=
  ∃ group seen, definition.compile group seen = .ok rule

theorem Becomes.compilesTo (becomes : definition.Becomes rule) :
    ∃ group, CompilesTo group definition rule := by
  obtain ⟨group, seen, compiled⟩ := becomes
  exact ⟨group, (compile_eq_ok_iff.mp compiled).1⟩

section Resolving

theorem Becomes.binds (becomes : definition.Becomes rule) (given : definition.field? = some raw) :
    FieldPath.parse raw = .ok rule.field ∧ rule.field.target = .ok rule.target := by
  obtain ⟨group, compiles⟩ := becomes.compilesTo
  obtain ⟨other, alsoGiven, binds⟩ := compiles.field
  cases given.symm.trans alsoGiven
  exact binds

/-- To resolve the path of a rule is to read the field that it was bound to. -/
theorem Becomes.resolveField_eq (becomes : definition.Becomes rule)
    (given : definition.field? = some raw) (application : Application) :
    resolveField raw application =
      ((rule.target.read? application).map .ok).getD (.error (.notFound rule.field.text)) := by
  obtain ⟨parsed, bound⟩ := becomes.binds given
  simp only [resolveField, parsed, FieldPath.resolve, bound]
  cases rule.target.read? application <;> rfl

theorem Becomes.resolveField_eq_ok_iff (becomes : definition.Becomes rule)
    (given : definition.field? = some raw) {value : FieldValue} :
    resolveField raw application = .ok value ↔ rule.target.read? application = some value := by
  rw [becomes.resolveField_eq given]
  cases rule.target.read? application <;> simp

theorem Becomes.resolveField_eq_error_iff (becomes : definition.Becomes rule)
    (given : definition.field? = some raw) {error : FieldError} :
    resolveField raw application = .error error ↔
      rule.target.read? application = none ∧ error = .notFound rule.field.text := by
  rw [becomes.resolveField_eq given]
  cases rule.target.read? application <;> simp [eq_comm]

end Resolving

/-- What a rule says of an application is what resolving the authored path there calls for. -/
structure Answers (definition : RuleDefinition) (rule : Rule) (raw : String)
    (application : Application) : Prop where
  path : rule.field.text = trimmed raw
  asks : definition.Asks rule.kind
  missing : ∀ error, resolveField raw application = .error error →
    error = .notFound rule.field.text ∧
      rule.evaluate application = rule.failedOutcome error.message
  absence : rule.evaluate application =
      rule.failedOutcome ("field '" ++ rule.field.text ++ "' not found") ↔
    (∃ error, resolveField raw application = .error error) ∨
      trimmed definition.message = "field '" ++ rule.field.text ++ "' not found" ∧
        ∃ value, resolveField raw application = .ok value ∧ rule.kind.Suits value ∧
          ¬ rule.kind.Holds value
  notNumeric : ∀ value, resolveField raw application = .ok value → rule.kind.IsNumeric →
    value.number? = none → rule.evaluate application =
      rule.failedOutcome ("field '" ++ rule.field.text ++ "' is not numeric")
  notBoolean : ∀ value, resolveField raw application = .ok value → rule.kind = .booleanIsTrue →
    value.flag? = none → rule.evaluate application =
      rule.failedOutcome ("field '" ++ rule.field.text ++ "' is not a boolean")
  passed : ∀ value, resolveField raw application = .ok value →
    (rule.evaluate application = rule.passedOutcome ↔ rule.kind.Holds value)
  failed : ∀ value, resolveField raw application = .ok value → rule.kind.Suits value →
    ¬ rule.kind.Holds value → rule.evaluate application = rule.failedOutcome
      (if trimmed definition.message = "" then rule.kind.describe rule.field
        else trimmed definition.message)

/-- A path that is read consists of visible characters. -/
theorem not_mem_text_of_parse {path : FieldPath} (parsed : FieldPath.parse raw = .ok path) :
    ' ' ∉ path.text.toList := by
  intro member
  have visible := (FieldPath.parse_eq_ok_iff.mp parsed).2.isBlank member
  cases visible

theorem Becomes.answers (becomes : definition.Becomes rule) (given : definition.field? = some raw)
    (application : Application) : definition.Answers rule raw application := by
  obtain ⟨group, compiles⟩ := becomes.compilesTo
  obtain ⟨parsed, -⟩ := becomes.binds given
  have plain := not_mem_text_of_parse parsed
  constructor
  case path => exact FieldPath.text_of_parse parsed
  case asks => exact compiles.kind
  case missing =>
    intro error failed
    obtain ⟨absent, rfl⟩ := (becomes.resolveField_eq_error_iff given).mp failed
    exact ⟨rfl, Rule.evaluate_of_absent absent⟩
  case absence =>
    simp only [Rule.evaluate_eq_absent_iff plain, becomes.resolveField_eq_error_iff given,
      becomes.resolveField_eq_ok_iff given, exists_and_left, exists_eq, and_true, compiles.message]
  case notNumeric =>
    intro value resolved
    exact Rule.evaluate_of_not_number ((becomes.resolveField_eq_ok_iff given).mp resolved)
  case notBoolean =>
    intro value resolved
    exact Rule.evaluate_of_not_flag ((becomes.resolveField_eq_ok_iff given).mp resolved)
  case passed =>
    intro value resolved
    have found := (becomes.resolveField_eq_ok_iff given).mp resolved
    refine ⟨fun same => ?_, Rule.evaluate_of_holds found⟩
    exact (Rule.passed_evaluate_iff_of_found found).mp (congrArg RuleOutcome.passed same)
  case failed =>
    intro value resolved suits fails
    have found := (becomes.resolveField_eq_ok_iff given).mp resolved
    rw [Rule.evaluate_of_not_holds found suits fails, Rule.failureMessage]
    simp only [String.isEmpty_iff, compiles.message]

section Comparisons

/-- The definitions ask for a range and, each on its own, for its two ends. -/
structure Ends (definition lowest highest : RuleDefinition) : Prop where
  isRange : definition.typeName = "RANGE"
  isMinimum : lowest.typeName = "MIN_VALUE"
  isMaximum : highest.typeName = "MAX_VALUE"
  min : ∃ least, definition.HasNumber "min" least ∧ lowest.HasNumber "min" least
  max : ∃ greatest, definition.HasNumber "max" greatest ∧ highest.HasNumber "max" greatest

/-- The definitions ask for the entries of a list, and for none of them. -/
structure Parts (definition excluding : RuleDefinition) : Prop where
  inList : definition.typeName = "IN_LIST"
  notInList : excluding.typeName = "NOT_IN_LIST"
  list : ∃ entries, definition.HasList entries ∧ excluding.HasList entries

theorem Becomes.kind?_eq (becomes : definition.Becomes rule) :
    definition.kind? = some (.ok rule.kind) := by
  obtain ⟨group, compiles⟩ := becomes.compilesTo
  exact kind?_of_asks compiles.kind

/-- A definition asks for one thing. -/
theorem Becomes.kind_eq (becomes : definition.Becomes rule) {kind : RuleKind}
    (asks : definition.Asks kind) : rule.kind = kind := by
  have same := becomes.kind?_eq.symm.trans (kind?_of_asks asks)
  exact Except.ok.inj (Option.some.inj same)

theorem Becomes.kind_of_range (becomes : definition.Becomes rule)
    (named : definition.typeName = "RANGE") {least greatest : Binary64}
    (hasMin : definition.HasNumber "min" least) (hasMax : definition.HasNumber "max" greatest) :
    rule.kind = .range least greatest := by
  have read := becomes.kind?_eq
  simp only [kind?, named, rangeParams, numberParam_of_hasNumber hasMin,
    numberParam_of_hasNumber hasMax, Option.some.injEq] at read
  split at read
  · cases read
  · exact (Except.ok.inj read).symm

theorem exists_of_map_eq_ok {α β ε : Type} {read : Except ε α} {make : α → β} {made : β}
    (mapped : read.map make = .ok made) : ∃ item, read = .ok item ∧ made = make item := by
  cases read with
  | error => cases mapped
  | ok item => exact ⟨item, rfl, (Except.ok.inj mapped).symm⟩

/-- A definition of a list type asks about the texts of the entries. -/
theorem Becomes.kind_of_list (becomes : definition.Becomes rule) {entries : List Json}
    (has : definition.HasList entries) {make : List String → RuleKind}
    (made : definition.kind? = some (definition.listParam.map make)) :
    ∃ texts, listEntries entries = .ok texts ∧ rule.kind = make texts := by
  rw [becomes.kind?_eq, listParam_of_hasList has, Option.some.injEq] at made
  exact exists_of_map_eq_ok made.symm

theorem Becomes.kind_of_inList (becomes : definition.Becomes rule)
    (named : definition.typeName = "IN_LIST") {entries : List Json}
    (has : definition.HasList entries) :
    ∃ texts, listEntries entries = .ok texts ∧ rule.kind = .inList texts :=
  becomes.kind_of_list has (by simp only [kind?, named])

theorem Becomes.kind_of_notInList (becomes : definition.Becomes rule)
    (named : definition.typeName = "NOT_IN_LIST") {entries : List Json}
    (has : definition.HasList entries) :
    ∃ texts, listEntries entries = .ok texts ∧ rule.kind = .notInList texts :=
  becomes.kind_of_list has (by simp only [kind?, named])

variable {lowest highest excluding : RuleDefinition} {low high exclusion : Rule}

/-- A value is in a range if it is on the right side of both ends. -/
theorem Ends.passed_iff (ends : definition.Ends lowest highest)
    (becomes : definition.Becomes rule) (becomesLow : lowest.Becomes low)
    (becomesHigh : highest.Becomes high) (sameLow : low.target = rule.target)
    (sameHigh : high.target = rule.target) (application : Application) :
    (rule.evaluate application).passed = true ↔
      (low.evaluate application).passed = true ∧ (high.evaluate application).passed = true := by
  obtain ⟨least, hasMin, hasLeast⟩ := ends.min
  obtain ⟨greatest, hasMax, hasGreatest⟩ := ends.max
  simp only [Rule.passed_evaluate_iff, becomes.kind_of_range ends.isRange hasMin hasMax,
    becomesLow.kind_eq (.minValue ends.isMinimum hasLeast),
    becomesHigh.kind_eq (.maxValue ends.isMaximum hasGreatest), sameLow, sameHigh]
  cases rule.target.read? application with
  | none => simp
  | some value => cases value <;> simp [RuleKind.Holds]

/-- Of two lists of the same entries, one of them of what is excluded, a value passes one. -/
theorem Parts.passed_eq (parts : definition.Parts excluding) (becomes : definition.Becomes rule)
    (becomesExclusion : excluding.Becomes exclusion) (same : exclusion.target = rule.target)
    {value : FieldValue} (found : rule.target.read? application = some value) :
    (rule.evaluate application).passed = !(exclusion.evaluate application).passed := by
  obtain ⟨entries, has, hasToo⟩ := parts.list
  obtain ⟨texts, read, asks⟩ := becomes.kind_of_inList parts.inList has
  obtain ⟨others, alsoRead, excludes⟩ := becomesExclusion.kind_of_notInList parts.notInList hasToo
  cases read.symm.trans alsoRead
  rw [Bool.eq_iff_iff, Bool.not_eq_true', ← Bool.not_eq_true,
    Rule.passed_evaluate_iff_of_found found, Rule.passed_evaluate_iff_of_found (same ▸ found),
    asks, excludes]
  exact not_not.symm

end Comparisons

/-- What a rule says of an application is what resolving the authored path there calls for. A range
passes exactly if both of its ends do, and of two lists of the same entries about one field exactly
one passes, unless there is nothing in the field. -/
theorem evaluate_agrees_with_resolver (becomes : definition.Becomes rule)
    (given : definition.field? = some raw) (application : Application) :
    definition.Answers rule raw application ∧
      (∀ lowest highest low high, definition.Ends lowest highest → lowest.Becomes low →
        highest.Becomes high → low.target = rule.target → high.target = rule.target →
          ((rule.evaluate application).passed = true ↔
            (low.evaluate application).passed = true ∧
              (high.evaluate application).passed = true)) ∧
      ∀ excluding exclusion, definition.Parts excluding → excluding.Becomes exclusion →
        exclusion.target = rule.target →
          (∀ error, resolveField raw application = .error error →
            (rule.evaluate application).passed = false ∧
              (exclusion.evaluate application).passed = false) ∧
          ∀ value, resolveField raw application = .ok value →
            (rule.evaluate application).passed = !(exclusion.evaluate application).passed := by
  refine ⟨becomes.answers given application, ?_, ?_⟩
  · intro lowest highest low high ends becomesLow becomesHigh sameLow sameHigh
    exact ends.passed_iff becomes becomesLow becomesHigh sameLow sameHigh application
  · intro excluding exclusion parts becomesExclusion same
    refine ⟨fun error failed => ?_, fun value resolved => ?_⟩
    · obtain ⟨absent, -⟩ := (becomes.resolveField_eq_error_iff given).mp failed
      rw [Rule.evaluate_of_absent absent, Rule.evaluate_of_absent (same ▸ absent)]
      exact ⟨rfl, rfl⟩
    · have found := (becomes.resolveField_eq_ok_iff given).mp resolved
      exact parts.passed_eq becomes becomesExclusion same found

theorem becomes_of_toOption (group : Severity)
    (compiled : (definition.compile group []).toOption = some rule) : definition.Becomes rule := by
  cases result : definition.compile group [] with
  | error error =>
    rw [result] at compiled
    cases compiled
  | ok other =>
    rw [result] at compiled
    cases compiled
    exact ⟨group, [], result⟩

/-- A range of credit scores. Its message is blank, and its path has spare characters. -/
def band : RuleDefinition :=
  Seed.hard "band" "Range" " guarantors[+0].fico_score"
    [("max", .integer 750), ("min", .integer 600)] " "

/-- The least score of the range. -/
def floor : RuleDefinition :=
  Seed.hard "floor" "MIN_VALUE" "guarantors[0].fico_score" [("min", .float 600)] "Too low"

/-- The greatest score of the range. -/
def ceiling : RuleDefinition :=
  Seed.hard "ceiling" "max_value " "guarantors[00].fico_score" [("max", .integer 750)] "Too high"

/-- A rule about the credit score, under some spelling of its path. -/
def scoreRule (id text message : String) (kind : RuleKind) : Rule :=
  ⟨id, kind, ⟨text, [⟨"guarantors", some 0⟩, ⟨"fico_score", none⟩]⟩, .guarantor 0 .ficoScore, .hard,
    message⟩

private theorem ends_band : band.Ends floor ceiling := by
  refine ⟨by decide, by decide, by decide, ⟨600, ?_, ?_⟩, ⟨750, ?_, ?_⟩⟩ <;>
    exact ⟨_, rfl, by decide +kernel, by decide +kernel⟩

/-- Payment scores as a number, as a text and as a decimal. -/
def paynetScores : List Json := [.integer 690, .string "700", .float 710]

/-- The payment score is among those of the list. -/
def oneOfScores : RuleDefinition :=
  Seed.hard "one" "in_list" "borrower.paynet_score" [("list", .array paynetScores)] "Not listed"

/-- The payment score is none of the list. -/
def noneOfScores : RuleDefinition :=
  Seed.hard "none" "NOT_IN_LIST" "borrower.paynet_score " [("list", .array paynetScores)] ""

/-- A rule about the payment score. -/
def paynetRule (id message : String) (kind : RuleKind) : Rule :=
  ⟨id, kind, ⟨"borrower.paynet_score", [⟨"borrower", none⟩, ⟨"paynet_score", none⟩]⟩,
    .borrower .paynetScore, .hard, message⟩

/-- The sample application of a business that has this payment score, or none. -/
def paidApplication (paynetScore? : Option UInt32) : Application :=
  let application := Seed.application 50000 36 690
  { application with borrower := { application.borrower with paynetScore? := paynetScore? } }

private theorem parts_oneOfScores : oneOfScores.Parts noneOfScores :=
  ⟨by decide, by decide, paynetScores, rfl, rfl⟩

/-- A credit score is in the band if it is above the floor and below the ceiling, and one below the
floor is reported with the description of the band. A payment score passes one of the two lists, and
a missing one neither. -/
theorem evaluate_agrees_with_resolver_scores :
    (∃ rule low high, band.Becomes rule ∧ floor.Becomes low ∧ ceiling.Becomes high ∧
      (∀ fico, ((rule.evaluate (Seed.application 50000 36 fico)).passed = true ↔
        (low.evaluate (Seed.application 50000 36 fico)).passed = true ∧
          (high.evaluate (Seed.application 50000 36 fico)).passed = true)) ∧
      rule.evaluate (Seed.application 50000 36 590) =
        rule.failedOutcome "guarantors[+0].fico_score must be between 600 and 750") ∧
    ∃ rule exclusion, oneOfScores.Becomes rule ∧ noneOfScores.Becomes exclusion ∧
      (∀ score, (rule.evaluate (paidApplication (some score))).passed =
        !(exclusion.evaluate (paidApplication (some score))).passed) ∧
      (rule.evaluate (paidApplication none)).passed = false ∧
      (exclusion.evaluate (paidApplication none)).passed = false := by
  have becomes :
      band.Becomes (scoreRule "band" "guarantors[+0].fico_score" "" (.range 600 750)) :=
    becomes_of_toOption .hard (by decide +kernel)
  have becomesLow :
      floor.Becomes (scoreRule "floor" "guarantors[0].fico_score" "Too low" (.minValue 600)) :=
    becomes_of_toOption .hard (by decide +kernel)
  have becomesHigh :
      ceiling.Becomes (scoreRule "ceiling" "guarantors[00].fico_score" "Too high" (.maxValue 750)) :=
    becomes_of_toOption .hard (by decide +kernel)
  have lists :
      oneOfScores.Becomes (paynetRule "one" "Not listed" (.inList ["690", "700", "710"])) :=
    becomes_of_toOption .hard (by decide +kernel)
  have excludes :
      noneOfScores.Becomes (paynetRule "none" "" (.notInList ["690", "700", "710"])) :=
    becomes_of_toOption .hard (by decide +kernel)
  have given : band.field? = some " guarantors[+0].fico_score" := rfl
  have alsoGiven : oneOfScores.field? = some "borrower.paynet_score" := rfl
  refine ⟨⟨_, _, _, becomes, becomesLow, becomesHigh, fun fico => ?_, ?_⟩,
    _, _, lists, excludes, fun score => ?_, ?_⟩
  · obtain ⟨-, compares, -⟩ :=
      evaluate_agrees_with_resolver becomes given (Seed.application 50000 36 fico)
    exact compares floor ceiling _ _ ends_band becomesLow becomesHigh rfl rfl
  · obtain ⟨answers, -, -⟩ :=
      evaluate_agrees_with_resolver becomes given (Seed.application 50000 36 590)
    have resolved : resolveField " guarantors[+0].fico_score" (Seed.application 50000 36 590) =
        .ok (.number (.ofNat 590)) := (becomes.resolveField_eq_ok_iff given).mpr rfl
    have fails : ¬ (RuleKind.range 600 750).Holds (.number (.ofNat 590)) := by
      rintro ⟨number, same, above, -⟩
      rw [← FieldValue.number.inj same] at above
      revert above
      decide +kernel
    refine (answers.failed _ resolved ⟨?_, ?_⟩ fails).trans (by decide +kernel)
    · exact fun _ => Option.some_ne_none _
    · rintro ⟨⟩
  · obtain ⟨-, -, parts⟩ :=
      evaluate_agrees_with_resolver lists alsoGiven (paidApplication (some score))
    obtain ⟨-, parted⟩ := parts noneOfScores _ parts_oneOfScores excludes rfl
    exact parted _ ((lists.resolveField_eq_ok_iff alsoGiven).mpr rfl)
  · obtain ⟨-, -, parts⟩ := evaluate_agrees_with_resolver lists alsoGiven (paidApplication none)
    obtain ⟨missed, -⟩ := parts noneOfScores _ parts_oneOfScores excludes rfl
    exact missed _ ((lists.resolveField_eq_error_iff alsoGiven).mpr ⟨rfl, rfl⟩)

/-- A least payment score whose message, but for the blanks around it, reads like the report of an
absence. -/
def mimic : RuleDefinition :=
  Seed.hard "paynet" "MIN_VALUE" "borrower.paynet_score" [("min", .integer 700)]
    "  field 'borrower.paynet_score' not found  "

/-- The message loses its blanks, and then a score that is too low is reported like one that is not
there. -/
theorem padded_message_reads_as_absence :
    ∃ rule, mimic.Becomes rule ∧
      resolveField "borrower.paynet_score" (Seed.application 50000 36 690) =
        .ok (.number (.ofNat 690)) ∧
      rule.evaluate (Seed.application 50000 36 690) =
        rule.failedOutcome "field 'borrower.paynet_score' not found" ∧
      (rule.evaluate (Seed.application 50000 36 690)).message? ≠ some mimic.message := by
  let rule : Rule := ⟨"paynet", .minValue 700, ⟨"borrower.paynet_score", [⟨"borrower", none⟩,
    ⟨"paynet_score", none⟩]⟩, .borrower .paynetScore, .hard,
    "field 'borrower.paynet_score' not found"⟩
  have becomes : mimic.Becomes rule := becomes_of_toOption .hard (by decide +kernel)
  refine ⟨rule, becomes, ?_, by decide +kernel, by decide +kernel⟩
  exact (becomes.resolveField_eq_ok_iff rfl).mpr rfl

end RuleDefinition

end Underwriting
