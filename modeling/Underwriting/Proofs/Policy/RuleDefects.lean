import Mathlib.Data.List.Forall2
import Underwriting.Policy.Compiled
import Underwriting.Proofs.Number.Positive

/-! # Defects of a rule

What it takes to compile one rule, and what can be wrong with it, said of the definition as it was
authored. A definition is checked in a fixed order: its id, its severity, its field and its type
with the parameters. Each defect is given together with everything that is checked before it and is
in order, so a definition has at most one, and it compiles exactly if it has none.
-/

namespace Underwriting

/-- A value that the list of a rule may hold. -/
def Json.IsScalar : Json → Prop
  | .string _ | .bool _ | .integer _ | .float _ => True
  | .null | .array _ | .object _ => False

namespace RuleDefinition

variable {definition : RuleDefinition}

/-- The definition has a finite number for the parameter of a name. -/
def HasNumber (definition : RuleDefinition) (name : String) (number : Binary64) : Prop :=
  ∃ value, definition.params.lookup name = some value ∧ value.number? = some number ∧
    number.isFinite = true

/-- The definition has a list of these entries. -/
def HasList (definition : RuleDefinition) (entries : List Json) : Prop :=
  definition.params.lookup "list" = some (.array entries)

/-- What a well-formed definition asks of the value of its field. -/
inductive Asks (definition : RuleDefinition) : RuleKind → Prop
  | minValue {least : Binary64} : definition.typeName = "MIN_VALUE" →
      definition.HasNumber "min" least → Asks definition (.minValue least)
  | maxValue {greatest : Binary64} : definition.typeName = "MAX_VALUE" →
      definition.HasNumber "max" greatest → Asks definition (.maxValue greatest)
  | inList {entries : List Json} {texts : List String} : definition.typeName = "IN_LIST" →
      definition.HasList entries →
      List.Forall₂ (fun entry text => listEntry entry = .ok text) entries texts →
      Asks definition (.inList texts)
  | notInList {entries : List Json} {texts : List String} : definition.typeName = "NOT_IN_LIST" →
      definition.HasList entries →
      List.Forall₂ (fun entry text => listEntry entry = .ok text) entries texts →
      Asks definition (.notInList texts)
  | booleanIsTrue : definition.typeName = "BOOLEAN_IS_TRUE" → Asks definition .booleanIsTrue
  | range {least greatest : Binary64} : definition.typeName = "RANGE" →
      definition.HasNumber "min" least → definition.HasNumber "max" greatest →
      least.atMost greatest = true → Asks definition (.range least greatest)

/-- The first thing wrong with the parameters of a definition of a known type. -/
inductive HasParamDefect (definition : RuleDefinition) : ParamDefect → Prop
  | minMissing : definition.typeName = "MIN_VALUE" ∨ definition.typeName = "RANGE" →
      (∀ number, ¬ definition.HasNumber "min" number) →
      HasParamDefect definition (.notFinite "min")
  | maxMissing : definition.typeName = "MAX_VALUE" →
      (∀ number, ¬ definition.HasNumber "max" number) →
      HasParamDefect definition (.notFinite "max")
  | rangeMaxMissing {least : Binary64} : definition.typeName = "RANGE" →
      definition.HasNumber "min" least → (∀ number, ¬ definition.HasNumber "max" number) →
      HasParamDefect definition (.notFinite "max")
  | rangeInverted {least greatest : Binary64} : definition.typeName = "RANGE" →
      definition.HasNumber "min" least → definition.HasNumber "max" greatest →
      least.atMost greatest = false → HasParamDefect definition (.rangeInverted least greatest)
  | listMissing : definition.typeName = "IN_LIST" ∨ definition.typeName = "NOT_IN_LIST" →
      (∀ entries, ¬ definition.HasList entries) → HasParamDefect definition .listMissing
  | notScalar {before after : List Json} {entry : Json} :
      definition.typeName = "IN_LIST" ∨ definition.typeName = "NOT_IN_LIST" →
      definition.HasList (before ++ entry :: after) → (∀ earlier ∈ before, earlier.IsScalar) →
      ¬ entry.IsScalar → HasParamDefect definition (.notScalar entry)

/-- The names of the types of rules. -/
def typeNames : List String :=
  ["MIN_VALUE", "MAX_VALUE", "IN_LIST", "NOT_IN_LIST", "BOOLEAN_IS_TRUE", "RANGE"]

section Params

theorem numberParam_of_hasNumber {name : String} {number : Binary64}
    (has : definition.HasNumber name number) : definition.numberParam name = .ok number := by
  obtain ⟨value, found, isNumber, finite⟩ := has
  simp only [numberParam, found, Option.bind_some, isNumber, finite, ↓reduceIte]

theorem numberParam_of_lacksNumber {name : String}
    (lacks : ∀ number, ¬ definition.HasNumber name number) :
    definition.numberParam name = .error (.notFinite name) := by
  unfold numberParam
  split
  case h_1 number found =>
    obtain ⟨value, present, isNumber⟩ := Option.bind_eq_some_iff.mp found
    exact if_neg fun finite => lacks number ⟨value, present, isNumber, finite⟩
  case h_2 => rfl

/-- A parameter is a finite number, or the definition lacks it. -/
theorem hasNumber_cases (definition : RuleDefinition) (name : String) :
    (∃ number, definition.HasNumber name number) ∨
      ∀ number, ¬ definition.HasNumber name number := by
  exact (Classical.em _).imp_right not_exists.mp

private theorem listEntry_cases (entry : Json) :
    (entry.IsScalar ∧ ∃ text, listEntry entry = .ok text) ∨
      (¬ entry.IsScalar ∧ listEntry entry = .error (.notScalar entry)) := by
  cases entry with
  | null | array | object => exact .inr ⟨fun scalar => scalar, rfl⟩
  | bool | integer | float | string => exact .inl ⟨trivial, _, rfl⟩

theorem listEntries_of_forall₂ {entries : List Json} {texts : List String}
    (read : List.Forall₂ (fun entry text => listEntry entry = .ok text) entries texts) :
    listEntries entries = .ok texts := by
  induction read with
  | nil => rfl
  | cons head tail ih => simp only [listEntries, head, ih, Except.map]

theorem listEntries_of_notScalar {before after : List Json} {entry : Json}
    (scalars : ∀ earlier ∈ before, earlier.IsScalar) (notScalar : ¬ entry.IsScalar) :
    listEntries (before ++ entry :: after) = .error (.notScalar entry) := by
  induction before with
  | nil =>
    rcases listEntry_cases entry with ⟨scalar, -⟩ | ⟨-, refused⟩
    · exact absurd scalar notScalar
    · simp only [List.nil_append, listEntries, refused]
  | cons first rest ih =>
    rcases listEntry_cases first with ⟨-, text, read⟩ | ⟨other, -⟩
    · have later := ih fun earlier member => scalars earlier (List.mem_cons_of_mem _ member)
      simp only [List.cons_append, listEntries, read, later, Except.map]
    · exact absurd (scalars first List.mem_cons_self) other

/-- All entries are scalars and have their texts, or one is the first that is none. -/
theorem listEntries_cases (entries : List Json) :
    (∃ texts, List.Forall₂ (fun entry text => listEntry entry = .ok text) entries texts) ∨
      ∃ before entry after, entries = before ++ entry :: after ∧
        (∀ earlier ∈ before, earlier.IsScalar) ∧ ¬ entry.IsScalar := by
  induction entries with
  | nil => exact .inl ⟨[], .nil⟩
  | cons first rest ih =>
    rcases listEntry_cases first with ⟨scalar, text, read⟩ | ⟨other, -⟩
    · rcases ih with ⟨texts, others⟩ | ⟨before, entry, after, rfl, scalars, notScalar⟩
      · exact .inl ⟨text :: texts, .cons read others⟩
      · refine .inr ⟨first :: before, entry, after, rfl, ?_, notScalar⟩
        exact List.forall_mem_cons.mpr ⟨scalar, scalars⟩
    · exact .inr ⟨[], first, rest, rfl, List.forall_mem_nil _, other⟩

theorem listParam_of_hasList {entries : List Json} (has : definition.HasList entries) :
    definition.listParam = listEntries entries := by
  simp only [listParam, show definition.params.lookup "list" = _ from has]

theorem listParam_of_lacksList (lacks : ∀ entries, ¬ definition.HasList entries) :
    definition.listParam = .error .listMissing := by
  unfold listParam
  split
  case h_1 entries found =>
    exact absurd found (lacks entries)
  case h_2 => rfl

end Params

section Kinds

theorem kind?_of_asks {kind : RuleKind} (asks : definition.Asks kind) :
    definition.kind? = some (.ok kind) := by
  cases asks with
  | minValue named has => simp only [kind?, named, numberParam_of_hasNumber has, Except.map]
  | maxValue named has => simp only [kind?, named, numberParam_of_hasNumber has, Except.map]
  | inList named has read =>
    simp only [kind?, named, listParam_of_hasList has, listEntries_of_forall₂ read, Except.map]
  | notInList named has read =>
    simp only [kind?, named, listParam_of_hasList has, listEntries_of_forall₂ read, Except.map]
  | booleanIsTrue named => simp only [kind?, named]
  | range named hasMin hasMax ordered =>
    have finite := hasMin.choose_spec.2.2
    have alsoFinite := hasMax.choose_spec.2.2
    rw [Binary64.atMost_eq_not_below finite alsoFinite, Bool.not_eq_true'] at ordered
    simp only [kind?, named, rangeParams, numberParam_of_hasNumber hasMin,
      numberParam_of_hasNumber hasMax, ordered, Bool.false_eq_true, ↓reduceIte]

theorem kind?_of_hasParamDefect {defect : ParamDefect} (has : definition.HasParamDefect defect) :
    definition.kind? = some (.error defect) := by
  cases has with
  | minMissing named lacks =>
    rcases named with named | named
    · simp only [kind?, named, numberParam_of_lacksNumber lacks, Except.map]
    · simp only [kind?, named, rangeParams, numberParam_of_lacksNumber lacks]
  | maxMissing named lacks => simp only [kind?, named, numberParam_of_lacksNumber lacks, Except.map]
  | rangeMaxMissing named hasMin lacks =>
    simp only [kind?, named, rangeParams, numberParam_of_hasNumber hasMin,
      numberParam_of_lacksNumber lacks]
  | rangeInverted named hasMin hasMax inverted =>
    have finite := hasMin.choose_spec.2.2
    have alsoFinite := hasMax.choose_spec.2.2
    rw [Binary64.atMost_eq_not_below finite alsoFinite, Bool.not_eq_false'] at inverted
    simp only [kind?, named, rangeParams, numberParam_of_hasNumber hasMin,
      numberParam_of_hasNumber hasMax, inverted, ↓reduceIte]
  | listMissing named lacks =>
    rcases named with named | named
    · simp only [kind?, named, listParam_of_lacksList lacks, Except.map]
    · simp only [kind?, named, listParam_of_lacksList lacks, Except.map]
  | notScalar named hasList scalars notScalar =>
    have refused :=
      (listParam_of_hasList hasList).trans (listEntries_of_notScalar scalars notScalar)
    rcases named with named | named
    · simp only [kind?, named, refused, Except.map]
    · simp only [kind?, named, refused, Except.map]

theorem kind?_of_unknownType (unknown : definition.typeName ∉ typeNames) :
    definition.kind? = none := by
  simp only [typeNames, List.mem_cons, List.not_mem_nil, or_false, not_or] at unknown
  unfold kind?
  split <;> simp_all

/-- A definition of a list type asks for membership in the texts of its entries, or has a defect. -/
private theorem list_cases
    (named : definition.typeName = "IN_LIST" ∨ definition.typeName = "NOT_IN_LIST") :
    (∃ entries texts, definition.HasList entries ∧
        List.Forall₂ (fun entry text => listEntry entry = .ok text) entries texts) ∨
      ∃ defect, definition.HasParamDefect defect := by
  by_cases has : ∃ entries, definition.HasList entries
  · obtain ⟨entries, has⟩ := has
    rcases listEntries_cases entries with
      ⟨texts, read⟩ | ⟨before, entry, after, rfl, scalars, notScalar⟩
    · exact .inl ⟨entries, texts, has, read⟩
    · exact .inr ⟨_, .notScalar named has scalars notScalar⟩
  · exact .inr ⟨_, .listMissing named (not_exists.mp has)⟩

/-- A definition of a known type asks something, or has a defect of its parameters. -/
theorem kind_cases (definition : RuleDefinition) :
    (∃ kind, definition.Asks kind) ∨ (∃ defect, definition.HasParamDefect defect) ∨
      definition.typeName ∉ typeNames := by
  by_cases known : definition.typeName ∈ typeNames
  · have cases := definition.hasNumber_cases
    rw [← or_assoc]
    left
    simp only [typeNames, List.mem_cons, List.not_mem_nil, or_false] at known
    rcases known with named | named | named | named | named | named
    · rcases cases "min" with ⟨least, has⟩ | lacks
      · exact .inl ⟨_, .minValue named has⟩
      · exact .inr ⟨_, .minMissing (.inl named) lacks⟩
    · rcases cases "max" with ⟨greatest, has⟩ | lacks
      · exact .inl ⟨_, .maxValue named has⟩
      · exact .inr ⟨_, .maxMissing named lacks⟩
    · rcases list_cases (.inl named) with ⟨entries, texts, has, read⟩ | defect
      · exact .inl ⟨_, .inList named has read⟩
      · exact .inr defect
    · rcases list_cases (.inr named) with ⟨entries, texts, has, read⟩ | defect
      · exact .inl ⟨_, .notInList named has read⟩
      · exact .inr defect
    · exact .inl ⟨_, .booleanIsTrue named⟩
    · rcases cases "min" with ⟨least, hasMin⟩ | lacks
      · rcases cases "max" with ⟨greatest, hasMax⟩ | lacks
        · cases ordered : least.atMost greatest with
          | true => exact .inl ⟨_, .range named hasMin hasMax ordered⟩
          | false => exact .inr ⟨_, .rangeInverted named hasMin hasMax ordered⟩
        · exact .inr ⟨_, .rangeMaxMissing named hasMin lacks⟩
      · exact .inr ⟨_, .minMissing (.inr named) lacks⟩
  · exact .inr (.inr known)

end Kinds

section Fields

/-- The definition names a field, by a path that is one of an application. -/
def Names (definition : RuleDefinition) (path : FieldPath) (target : FieldTarget) : Prop :=
  ∃ raw, definition.field? = some raw ∧ FieldPath.parse raw = .ok path ∧ path.target = .ok target

/-- The first thing wrong with the field of a definition. -/
inductive HasFieldDefect (definition : RuleDefinition) : PolicyError → Prop
  | missing : definition.field? = none →
      HasFieldDefect definition (.missingField (trimmed definition.id))
  | unparsed {raw : String} {cause : FieldError} : definition.field? = some raw →
      FieldPath.parse raw = .error cause →
      HasFieldDefect definition (.badFieldPath (trimmed definition.id) cause)
  | unbound {raw : String} {path : FieldPath} {cause : FieldError} :
      definition.field? = some raw → FieldPath.parse raw = .ok path → path.target = .error cause →
      HasFieldDefect definition (.badFieldPath (trimmed definition.id) cause)

theorem compileField_of_names {path : FieldPath} {target : FieldTarget} (id : String)
    (names : definition.Names path target) : compileField id definition = .ok (path, target) := by
  obtain ⟨raw, given, parsed, bound⟩ := names
  simp only [compileField, given, parsed, bound]

theorem compileField_of_hasFieldDefect {error : PolicyError}
    (has : definition.HasFieldDefect error) :
    compileField (trimmed definition.id) definition = .error error := by
  cases has with
  | missing absent => simp only [compileField, absent]
  | unparsed given failed => simp only [compileField, given, failed]
  | unbound given parsed failed => simp only [compileField, given, parsed, failed]

theorem field_cases (definition : RuleDefinition) :
    (∃ path target, definition.Names path target) ∨ ∃ error, definition.HasFieldDefect error := by
  cases given : definition.field? with
  | none => exact .inr ⟨_, .missing given⟩
  | some raw =>
    cases parsed : FieldPath.parse raw with
    | error cause => exact .inr ⟨_, .unparsed given parsed⟩
    | ok path =>
      cases bound : path.target with
      | error cause => exact .inr ⟨_, .unbound given parsed bound⟩
      | ok target => exact .inl ⟨path, target, raw, given, parsed, bound⟩

end Fields

section Rules

variable {group : Severity} {seen : List String}

/-- The id of the definition, without white space around it, is not blank and was not seen
before. -/
def IsNew (definition : RuleDefinition) (seen : List String) : Prop :=
  trimmed definition.id ≠ "" ∧ trimmed definition.id ∉ seen

/-- The first thing wrong with a definition in a tree of a severity, after rules with other ids. -/
inductive HasDefect (group : Severity) (seen : List String) (definition : RuleDefinition) :
    PolicyError → Prop
  | blankId : trimmed definition.id = "" → HasDefect group seen definition .missingRuleId
  | repeatedId : trimmed definition.id ≠ "" → trimmed definition.id ∈ seen →
      HasDefect group seen definition (.duplicateRuleId (trimmed definition.id))
  | otherSeverity : definition.IsNew seen → definition.severity ≠ group →
      HasDefect group seen definition
        (.severityMismatch (trimmed definition.id) definition.severity group)
  | field {error : PolicyError} : definition.IsNew seen → definition.severity = group →
      definition.HasFieldDefect error → HasDefect group seen definition error
  | unknownType {path : FieldPath} {target : FieldTarget} : definition.IsNew seen →
      definition.severity = group → definition.Names path target →
      definition.typeName ∉ typeNames →
      HasDefect group seen definition
        (.unknownRuleType (trimmed definition.id) definition.ruleType)
  | params {path : FieldPath} {target : FieldTarget} {defect : ParamDefect} :
      definition.IsNew seen → definition.severity = group → definition.Names path target →
      definition.HasParamDefect defect →
      HasDefect group seen definition (.invalidParams (trimmed definition.id) defect)

/-- The rule that a definition without defects becomes. -/
structure CompilesTo (group : Severity) (definition : RuleDefinition) (rule : Rule) : Prop where
  id : rule.id = trimmed definition.id
  named : rule.id ≠ ""
  declared : definition.severity = group
  severity : rule.severity = group
  field : definition.Names rule.field rule.target
  kind : definition.Asks rule.kind
  message : rule.message = trimmed definition.message

private theorem contains_eq_false_of_isNew (isNew : definition.IsNew seen) :
    seen.contains (trimmed definition.id) = false := by
  rw [← Bool.not_eq_true, List.contains_iff_mem]
  exact isNew.2

theorem compile_of_hasDefect {error : PolicyError} (has : HasDefect group seen definition error) :
    definition.compile group seen = .error error := by
  cases has with
  | blankId blank => simp only [compile, blank, ↓reduceIte]
  | repeatedId named repeated =>
    simp only [compile, named, List.contains_iff_mem.mpr repeated, ↓reduceIte]
  | otherSeverity isNew other =>
    simp only [compile, isNew.1, contains_eq_false_of_isNew isNew, other, ne_eq,
      not_false_eq_true, Bool.false_eq_true, ↓reduceIte]
  | field isNew declared has =>
    simp only [compile, isNew.1, contains_eq_false_of_isNew isNew, declared, ne_eq,
      not_true_eq_false, Bool.false_eq_true, ↓reduceIte, compileField_of_hasFieldDefect has]
  | unknownType isNew declared names unknown =>
    simp only [compile, isNew.1, contains_eq_false_of_isNew isNew, declared, ne_eq,
      not_true_eq_false, Bool.false_eq_true, ↓reduceIte, compileField_of_names _ names,
      compileKind, kind?_of_unknownType unknown]
  | params isNew declared names has =>
    simp only [compile, isNew.1, contains_eq_false_of_isNew isNew, declared, ne_eq,
      not_true_eq_false, Bool.false_eq_true, ↓reduceIte, compileField_of_names _ names,
      compileKind, kind?_of_hasParamDefect has]

theorem compile_of_compilesTo {rule : Rule} (compiles : CompilesTo group definition rule)
    (isNew : rule.id ∉ seen) : definition.compile group seen = .ok rule := by
  obtain ⟨id, kind, field, target, severity, message⟩ := rule
  obtain ⟨rfl, named, declared, rfl, names, asks, rfl⟩ := compiles
  simp only at named declared names asks isNew
  simp only [compile, named, contains_eq_false_of_isNew ⟨named, isNew⟩, declared, ne_eq,
    not_true_eq_false, Bool.false_eq_true, ↓reduceIte, compileField_of_names _ names,
    compileKind, kind?_of_asks asks]

/-- A definition has a defect, or it becomes a rule with an id that was not seen before. -/
theorem compile_cases (group : Severity) (seen : List String) (definition : RuleDefinition) :
    (∃ error, HasDefect group seen definition error) ∨
      ∃ rule, CompilesTo group definition rule ∧ rule.id ∉ seen := by
  by_cases blank : trimmed definition.id = ""
  · exact .inl ⟨_, .blankId blank⟩
  by_cases repeated : trimmed definition.id ∈ seen
  · exact .inl ⟨_, .repeatedId blank repeated⟩
  have isNew : definition.IsNew seen := ⟨blank, repeated⟩
  by_cases declared : definition.severity = group
  · rcases definition.field_cases with ⟨path, target, names⟩ | ⟨error, has⟩
    · rcases definition.kind_cases with ⟨kind, asks⟩ | ⟨defect, has⟩ | unknown
      · exact .inr ⟨⟨_, kind, path, target, group, _⟩,
          ⟨rfl, blank, declared, rfl, names, asks, rfl⟩, repeated⟩
      · exact .inl ⟨_, .params isNew declared names has⟩
      · exact .inl ⟨_, .unknownType isNew declared names unknown⟩
    · exact .inl ⟨_, .field isNew declared has⟩
  · exact .inl ⟨_, .otherSeverity isNew declared⟩

/-- Compiling a definition reports its defect. -/
theorem compile_eq_error_iff {error : PolicyError} :
    definition.compile group seen = .error error ↔ HasDefect group seen definition error := by
  constructor
  · intro failed
    rcases compile_cases group seen definition with ⟨other, has⟩ | ⟨rule, compiles, isNew⟩
    · rw [compile_of_hasDefect has] at failed
      exact Except.error.inj failed ▸ has
    · rw [compile_of_compilesTo compiles isNew] at failed
      cases failed
  · exact compile_of_hasDefect

/-- Compiling a definition gives the rule that it becomes. -/
theorem compile_eq_ok_iff {rule : Rule} :
    definition.compile group seen = .ok rule ↔
      CompilesTo group definition rule ∧ rule.id ∉ seen := by
  constructor
  · intro compiled
    rcases compile_cases group seen definition with ⟨error, has⟩ | ⟨other, compiles, isNew⟩
    · rw [compile_of_hasDefect has] at compiled
      cases compiled
    · rw [compile_of_compilesTo compiles isNew] at compiled
      exact Except.ok.inj compiled ▸ ⟨compiles, isNew⟩
  · rintro ⟨compiles, isNew⟩
    exact compile_of_compilesTo compiles isNew

/-- Of the ids seen before only the set matters. -/
theorem compile_congr {others : List String} (same : ∀ id, id ∈ seen ↔ id ∈ others) :
    definition.compile group seen = definition.compile group others := by
  have alike : seen.contains (trimmed definition.id) = others.contains (trimmed definition.id) := by
    rw [Bool.eq_iff_iff, List.contains_iff_mem, List.contains_iff_mem, same]
  simp only [compile, alike]

end Rules

end RuleDefinition

end Underwriting
