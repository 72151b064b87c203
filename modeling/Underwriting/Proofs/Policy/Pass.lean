import Underwriting.Proofs.Policy.RuleDefects
import Underwriting.Proofs.Policy.ScoringDefects
import Underwriting.Proofs.Policy.TreeShape

/-! # Compiling a policy in one pass

Compiling walks through two trees and hands the ids seen so far from group to group. What it does
is one pass over the rules of both trees in pre-order, hard before soft: the pass stops at the first
definition with a defect, and the scoring is checked behind it. A policy compiles exactly if neither
its rules nor its scoring have a defect, and what it compiles to is the same two trees with every
definition replaced by its rule.
-/

namespace Underwriting

namespace RuleDefinition

/-- A definition with the severity of the tree in which it stands. -/
abbrev Placed := Severity × RuleDefinition

/-- The ids of definitions without white space around them. -/
def ids (entries : List Placed) : List String := entries.map fun entry => trimmed entry.2.id

/-- One pass over definitions: each is compiled after the ids seen before it, and the first defect
ends the pass. -/
def sweep (seen : List String) : List Placed → Except PolicyError (List Rule)
  | [] => .ok []
  | (group, definition) :: rest => match definition.compile group seen with
    | .error error => .error error
    | .ok rule => (sweep (trimmed definition.id :: seen) rest).map (rule :: ·)

/-- No definition has a defect in its place behind those before it. -/
def Flawless (entries : List Placed) : Prop :=
  ∀ before group definition after error, entries = before ++ (group, definition) :: after →
    ¬ HasDefect group (ids before) definition error

section Sweep

variable {seen : List String} {entries : List Placed}

/-- A pass goes on behind a front part with the ids of that part. -/
theorem sweep_append (seen : List String) (front back : List Placed) :
    sweep seen (front ++ back) = match sweep seen front with
      | .error error => .error error
      | .ok rules => (sweep ((ids front).reverse ++ seen) back).map (rules ++ ·) := by
  induction front generalizing seen with
  | nil => cases swept : sweep seen back <;> simp [sweep, ids, swept, Except.map]
  | cons entry rest ih =>
    obtain ⟨group, definition⟩ := entry
    simp only [List.cons_append, sweep]
    cases definition.compile group seen with
    | error error => rfl
    | ok rule =>
      simp only [ih, ids, List.map_cons, List.reverse_cons, List.append_assoc,
        List.singleton_append]
      cases sweep (trimmed definition.id :: seen) rest with
      | error error => rfl
      | ok rules =>
        cases sweep ((rest.map fun entry => trimmed entry.2.id).reverse ++
          trimmed definition.id :: seen) back <;> simp [Except.map]

/-- A pass that reaches its end has compiled every definition, and all ids are new. -/
theorem sweep_eq_ok_iff {rules : List Rule} :
    sweep seen entries = .ok rules ↔
      List.Forall₂ (fun entry rule => CompilesTo entry.1 entry.2 rule) entries rules ∧
        (rules.map (·.id)).Nodup ∧ ∀ rule ∈ rules, rule.id ∉ seen := by
  induction entries generalizing seen rules with
  | nil => cases rules <;> simp [sweep]
  | cons entry rest ih =>
    obtain ⟨group, definition⟩ := entry
    constructor
    · intro swept
      simp only [sweep] at swept
      cases compiled : definition.compile group seen with
      | error error => simp [compiled] at swept
      | ok rule =>
        obtain ⟨compiles, isNew⟩ := compile_eq_ok_iff.mp compiled
        cases later : sweep (trimmed definition.id :: seen) rest with
        | error error => simp [compiled, later, Except.map] at swept
        | ok others =>
          simp only [compiled, later, Except.map, Except.ok.injEq] at swept
          subst swept
          obtain ⟨compile, distinct, fresh⟩ := ih.mp later
          rw [← compiles.id] at fresh
          refine ⟨.cons compiles compile, List.nodup_cons.mpr ⟨?_, distinct⟩, ?_⟩
          · intro repeated
            obtain ⟨other, member, same⟩ := List.mem_map.mp repeated
            exact fresh other member (same ▸ List.mem_cons_self)
          · refine List.forall_mem_cons.mpr ⟨isNew, fun other member old => ?_⟩
            exact fresh other member (List.mem_cons_of_mem _ old)
    · rintro ⟨compile, distinct, fresh⟩
      cases compile with
      | @cons _ rule _ others compiles compile =>
        obtain ⟨unique, distinct⟩ := List.nodup_cons.mp distinct
        obtain ⟨isNew, fresh⟩ := List.forall_mem_cons.mp fresh
        have later : sweep (trimmed definition.id :: seen) rest = .ok others := by
          refine ih.mpr ⟨compile, distinct, fun other member => ?_⟩
          rw [← compiles.id, List.mem_cons, not_or]
          exact ⟨fun same => unique (List.mem_map.mpr ⟨other, member, same⟩),
            fresh other member⟩
        simp only [sweep, compile_of_compilesTo compiles isNew, later, Except.map]

/-- A pass that stops has found the first definition with a defect. -/
theorem exists_defect_of_sweep_eq_error {error : PolicyError}
    (stopped : sweep seen entries = .error error) :
    ∃ before group definition after, entries = before ++ (group, definition) :: after ∧
      (∃ rules, sweep seen before = .ok rules) ∧
      HasDefect group ((ids before).reverse ++ seen) definition error := by
  induction entries generalizing seen with
  | nil => cases stopped
  | cons entry rest ih =>
    obtain ⟨group, definition⟩ := entry
    simp only [sweep] at stopped
    cases compiled : definition.compile group seen with
    | error cause =>
      simp only [compiled, Except.error.injEq] at stopped
      subst stopped
      exact ⟨[], group, definition, rest, rfl, ⟨[], rfl⟩, compile_eq_error_iff.mp compiled⟩
    | ok rule =>
      cases later : sweep (trimmed definition.id :: seen) rest with
      | ok others => simp [compiled, later, Except.map] at stopped
      | error cause =>
        simp only [compiled, later, Except.map, Except.error.injEq] at stopped
        subst stopped
        obtain ⟨before, other, defective, after, rfl, ⟨rules, swept⟩, has⟩ := ih later
        refine ⟨(group, definition) :: before, other, defective, after, rfl, ?_, ?_⟩
        · exact ⟨rule :: rules, by simp only [sweep, compiled, swept, Except.map]⟩
        · simpa only [ids, List.map_cons, List.reverse_cons, List.append_assoc,
            List.singleton_append] using has

theorem hasDefect_reverse_iff {group : Severity} {definition : RuleDefinition}
    {error : PolicyError} :
    HasDefect group ((ids entries).reverse ++ []) definition error ↔
      HasDefect group (ids entries) definition error := by
  rw [← compile_eq_error_iff, ← compile_eq_error_iff, List.append_nil,
    compile_congr fun _ => List.mem_reverse]

/-- A pass reaches its end exactly if there is no defect on its way. -/
theorem exists_sweep_iff : (∃ rules, sweep [] entries = .ok rules) ↔ Flawless entries := by
  constructor
  · rintro ⟨rules, swept⟩ before group definition after error rfl has
    rw [sweep_append] at swept
    cases front : sweep [] before with
    | error cause => simp [front] at swept
    | ok earlier =>
      have failed := compile_of_hasDefect (hasDefect_reverse_iff.mpr has)
      simp only [front, sweep, failed, Except.map, reduceCtorEq] at swept
  · intro flawless
    cases swept : sweep [] entries with
    | ok rules => exact ⟨rules, rfl⟩
    | error error =>
      obtain ⟨before, group, definition, after, rfl, -, has⟩ :=
        exists_defect_of_sweep_eq_error swept
      exact absurd (hasDefect_reverse_iff.mp has)
        (flawless before group definition after error rfl)

/-- A pass stops with an error exactly if that is the defect of the first defective definition. -/
theorem sweep_eq_error_iff {error : PolicyError} :
    sweep [] entries = .error error ↔
      ∃ before group definition after, entries = before ++ (group, definition) :: after ∧
        Flawless before ∧ HasDefect group (ids before) definition error := by
  constructor
  · intro stopped
    obtain ⟨before, group, definition, after, rfl, swept, has⟩ :=
      exists_defect_of_sweep_eq_error stopped
    exact ⟨before, group, definition, after, rfl, exists_sweep_iff.mp swept,
      hasDefect_reverse_iff.mp has⟩
  · rintro ⟨before, group, definition, after, rfl, flawless, has⟩
    obtain ⟨rules, swept⟩ := exists_sweep_iff.mpr flawless
    have failed := compile_of_hasDefect (hasDefect_reverse_iff.mpr has)
    simp only [sweep_append, swept, sweep, failed, Except.map]

end Sweep

section Trees

variable {group : Severity}

/-- Compiling a list of definitions is a pass over them. -/
private theorem sweep_definitions (definitions : List RuleDefinition) (seen : List String)
    (rest : List Placed) :
    sweep seen (definitions.map (group, ·) ++ rest) =
      match compileAll group seen definitions with
      | .error error => .error error
      | .ok (rules, after) => (sweep after rest).map (rules ++ ·) := by
  induction definitions generalizing seen with
  | nil => cases swept : sweep seen rest <;> simp [compileAll, swept, Except.map]
  | cons definition others ih =>
    simp only [List.map_cons, List.cons_append, sweep, compileAll]
    cases compiled : definition.compile group seen with
    | error error => rfl
    | ok rule =>
      simp only [ih, (compile_eq_ok_iff.mp compiled).1.id]
      cases compileAll group (trimmed definition.id :: seen) others with
      | error error => rfl
      | ok found =>
        obtain ⟨rules, after⟩ := found
        cases swept : sweep after rest <;> simp [Except.map, swept]

theorem map_unit_of_compileAll {definitions : List RuleDefinition} {seen after : List String}
    {rules : List Rule} (compiled : compileAll group seen definitions = .ok (rules, after)) :
    rules.map (fun _ => ()) = definitions.map fun _ => () := by
  induction definitions generalizing seen after rules with
  | nil =>
    simp only [compileAll, Except.ok.injEq, Prod.mk.injEq] at compiled
    rw [← compiled.1, List.map_nil, List.map_nil]
  | cons definition others ih =>
    simp only [compileAll] at compiled
    split at compiled
    · cases compiled
    · split at compiled
      case h_1 => cases compiled
      case h_2 found =>
        simp only [Except.ok.injEq, Prod.mk.injEq] at compiled
        rw [← compiled.1, List.map_cons, List.map_cons, ih found]

end Trees

end RuleDefinition

namespace RuleTree

open RuleDefinition (Placed sweep)

mutual

/-- Compiling a tree is a pass over its definitions in pre-order, whatever comes behind them. -/
theorem sweep_flatten (group : Severity) : (tree : RuleTree RuleDefinition) → (seen : List String) →
    (rest : List Placed) →
    sweep seen (tree.flatten.map (group, ·) ++ rest) = match tree.compile group seen with
      | .error error => .error error
      | .ok (compiled, after) => (sweep after rest).map (compiled.flatten ++ ·)
  | ⟨logic, definitions, groups⟩, seen, rest => by
    rw [flatten, List.map_append, List.append_assoc, RuleDefinition.sweep_definitions, compile]
    cases RuleDefinition.compileAll group seen definitions with
    | error error => rfl
    | ok found =>
      obtain ⟨rules, between⟩ := found
      simp only [sweep_flattenAll group groups between rest]
      cases compileAll group between groups with
      | error error => rfl
      | ok inner =>
        obtain ⟨compiled, after⟩ := inner
        cases swept : sweep after rest <;> simp [Except.map, swept, flatten]

theorem sweep_flattenAll (group : Severity) : (trees : List (RuleTree RuleDefinition)) →
    (seen : List String) → (rest : List Placed) →
    sweep seen ((flattenAll trees).map (group, ·) ++ rest) =
      match compileAll group seen trees with
      | .error error => .error error
      | .ok (compiled, after) => (sweep after rest).map (flattenAll compiled ++ ·)
  | [], seen, rest => by
    cases swept : sweep seen rest <;> simp [flattenAll, compileAll, swept, Except.map]
  | tree :: trees, seen, rest => by
    rw [flattenAll, List.map_append, List.append_assoc, sweep_flatten group tree, compileAll]
    cases compile group seen tree with
    | error error => rfl
    | ok first =>
      obtain ⟨compiled, between⟩ := first
      simp only [sweep_flattenAll group trees between rest]
      cases compileAll group between trees with
      | error error => rfl
      | ok others =>
        obtain ⟨compiled, after⟩ := others
        cases swept : sweep after rest <;> simp [Except.map, swept, flattenAll]

end

variable {group : Severity}

mutual

/-- Compiling keeps the shape of a tree. -/
theorem shape_compile : {tree : RuleTree RuleDefinition} → {compiled : RuleTree Rule} →
    {seen after : List String} → tree.compile group seen = .ok (compiled, after) →
    compiled.shape = tree.shape
  | ⟨logic, definitions, groups⟩, compiled, seen, after, success => by
    simp only [compile] at success
    split at success
    case h_1 => cases success
    case h_2 found =>
      split at success
      case h_1 => cases success
      case h_2 inner =>
        simp only [Except.ok.injEq, Prod.mk.injEq] at success
        rw [← success.1, shape, shape, RuleDefinition.map_unit_of_compileAll found,
          shapeAll_compileAll inner]

theorem shapeAll_compileAll : {trees : List (RuleTree RuleDefinition)} →
    {compiled : List (RuleTree Rule)} → {seen after : List String} →
    compileAll group seen trees = .ok (compiled, after) → shapeAll compiled = shapeAll trees
  | [], compiled, seen, after, success => by
    simp only [compileAll, Except.ok.injEq, Prod.mk.injEq] at success
    rw [← success.1]
    rfl
  | tree :: trees, compiled, seen, after, success => by
    simp only [compileAll] at success
    split at success
    case h_1 => cases success
    case h_2 first =>
      split at success
      case h_1 => cases success
      case h_2 others =>
        simp only [Except.ok.injEq, Prod.mk.injEq] at success
        rw [← success.1, shapeAll, shapeAll, shape_compile first, shapeAll_compileAll others]

end

/-- The definitions of a tree that compiles become its rules, one by one. -/
theorem forall₂_of_compile {tree : RuleTree RuleDefinition} {compiled : RuleTree Rule}
    {seen after : List String} (success : tree.compile group seen = .ok (compiled, after)) :
    List.Forall₂ (RuleDefinition.CompilesTo group) tree.flatten compiled.flatten := by
  have swept := sweep_flatten group tree seen []
  simp only [List.append_nil, success, sweep, Except.map] at swept
  have compile := (RuleDefinition.sweep_eq_ok_iff.mp swept).1
  rwa [List.forall₂_map_left_iff] at compile

end RuleTree

/-- The rules of a compiled policy, the hard ones first. -/
def CompiledPolicy.rules (policy : CompiledPolicy) : List Rule :=
  policy.hardRules.flatten ++ policy.softRules.flatten

namespace Policy

open RuleDefinition (Placed Flawless)

/-- The definitions of a policy in the order in which they are checked. -/
def entries (policy : Policy) : List Placed :=
  policy.hardRules.flatten.map (.hard, ·) ++ policy.softRules.flatten.map (.soft, ·)

/-- One pass over the definitions of a policy, and the check of its scoring behind it. -/
def sweep (policy : Policy) : Except PolicyError (List Rule) :=
  match RuleDefinition.sweep [] policy.entries with
  | .error error => .error error
  | .ok rules => match policy.scoring.defect? with
    | some defect => .error (.invalidScoring defect)
    | none => .ok rules

/-- What a policy without defects becomes: its two trees with a rule for each definition, all ids
distinct. -/
structure CompilesTo (policy : Policy) (compiled : CompiledPolicy) : Prop where
  program : compiled.program = policy.program
  version : compiled.version = policy.version
  scoring : compiled.scoring = policy.scoring
  scores : policy.scoring.IsSound
  hardShape : compiled.hardRules.shape = policy.hardRules.shape
  softShape : compiled.softRules.shape = policy.softRules.shape
  hardRules : List.Forall₂ (RuleDefinition.CompilesTo .hard) policy.hardRules.flatten
    compiled.hardRules.flatten
  softRules : List.Forall₂ (RuleDefinition.CompilesTo .soft) policy.softRules.flatten
    compiled.softRules.flatten
  distinct : (compiled.rules.map (·.id)).Nodup

/-- The first thing wrong with a policy: the first definition with a defect in its place, or, if
there is none, the scoring. -/
inductive FirstDefect (policy : Policy) : PolicyError → Prop
  | rule {before after : List Placed} {group : Severity} {definition : RuleDefinition}
      {error : PolicyError} : policy.entries = before ++ (group, definition) :: after →
      Flawless before → definition.HasDefect group (RuleDefinition.ids before) error →
      FirstDefect policy error
  | scoring {defect : ScoringDefect} : Flawless policy.entries →
      policy.scoring.HasDefect defect → FirstDefect policy (.invalidScoring defect)

variable {policy : Policy} {compiled : CompiledPolicy}

/-- Compiling gives the error of the pass, or the rules of the pass. -/
theorem map_rules_compile (policy : Policy) :
    policy.compile.map CompiledPolicy.rules = policy.sweep := by
  have soft (seen : List String) :=
    RuleTree.sweep_flatten .soft policy.softRules seen []
  simp only [List.append_nil] at soft
  rw [sweep, entries, RuleTree.sweep_flatten, compile]
  cases policy.hardRules.compile .hard [] with
  | error error => rfl
  | ok hard =>
    obtain ⟨hardRules, seen⟩ := hard
    simp only [soft]
    cases policy.softRules.compile .soft seen with
    | error error => rfl
    | ok soft =>
      obtain ⟨softRules, after⟩ := soft
      cases policy.scoring.defect? <;> simp [RuleDefinition.sweep, Except.map, CompiledPolicy.rules]

theorem compilesTo_of_compile (success : policy.compile = .ok compiled) :
    policy.CompilesTo compiled := by
  have swept := map_rules_compile policy
  simp only [success, Except.map, sweep] at swept
  simp only [compile] at success
  split at success
  case h_1 => cases success
  case h_2 hardRules seen hard =>
    split at success
    case h_1 => cases success
    case h_2 softRules after soft =>
      split at success
      case h_1 => cases success
      case h_2 sound =>
        rw [Except.ok.injEq] at success
        subst success
        simp only [sound] at swept
        split at swept
        case h_1 => cases swept
        case h_2 rules passed =>
          have distinct := (RuleDefinition.sweep_eq_ok_iff.mp passed).2.1
          rw [← Except.ok.inj swept] at distinct
          exact
            { program := rfl, version := rfl, scoring := rfl
              scores := ScoringConfig.defect?_eq_none_iff.mp sound
              hardShape := RuleTree.shape_compile hard
              softShape := RuleTree.shape_compile soft
              hardRules := RuleTree.forall₂_of_compile hard
              softRules := RuleTree.forall₂_of_compile soft
              distinct := distinct }

/-- Two compiled policies of one policy with the same rules are the same. -/
theorem CompilesTo.eq_of_rules {other : CompiledPolicy} (compiles : policy.CompilesTo compiled)
    (also : policy.CompilesTo other) (same : compiled.rules = other.rules) : compiled = other := by
  have hardShape := compiles.hardShape.trans also.hardShape.symm
  have softShape := compiles.softShape.trans also.softShape.symm
  obtain ⟨hard, soft⟩ := List.append_inj same (RuleTree.length_flatten_of_shape hardShape)
  obtain ⟨program, version, hardRules, softRules, scoring⟩ := compiled
  rw [CompiledPolicy.mk.injEq]
  exact ⟨compiles.program.trans also.program.symm, compiles.version.trans also.version.symm,
    RuleTree.eq_of_shape_of_flatten _ _ hardShape hard,
    RuleTree.eq_of_shape_of_flatten _ _ softShape soft,
    compiles.scoring.trans also.scoring.symm⟩

theorem compile_of_compilesTo (compiles : policy.CompilesTo compiled) :
    policy.compile = .ok compiled := by
  have passed : RuleDefinition.sweep [] policy.entries = .ok compiled.rules := by
    refine RuleDefinition.sweep_eq_ok_iff.mpr ⟨?_, compiles.distinct, fun _ _ => List.not_mem_nil⟩
    refine List.rel_append ?_ ?_
    · rw [List.forall₂_map_left_iff]
      exact compiles.hardRules
    · rw [List.forall₂_map_left_iff]
      exact compiles.softRules
  have swept := map_rules_compile policy
  simp only [sweep, passed, ScoringConfig.defect?_eq_none_iff.mpr compiles.scores] at swept
  cases success : policy.compile with
  | error error => simp [success, Except.map] at swept
  | ok other =>
    simp only [success, Except.map, Except.ok.injEq] at swept
    rw [(compilesTo_of_compile success).eq_of_rules compiles swept]

theorem compile_eq_ok_iff : policy.compile = .ok compiled ↔ policy.CompilesTo compiled :=
  ⟨compilesTo_of_compile, compile_of_compilesTo⟩

theorem sweep_eq_error_iff {error : PolicyError} :
    policy.sweep = .error error ↔ policy.FirstDefect error := by
  unfold sweep
  constructor
  · intro stopped
    split at stopped
    case h_1 cause found =>
      rw [← Except.error.inj stopped]
      obtain ⟨before, group, definition, after, listed, flawless, has⟩ :=
        RuleDefinition.sweep_eq_error_iff.mp found
      exact .rule listed flawless has
    case h_2 rules passed =>
      split at stopped
      case h_1 defect found =>
        rw [← Except.error.inj stopped]
        exact .scoring (RuleDefinition.exists_sweep_iff.mp ⟨rules, passed⟩)
          (ScoringConfig.defect?_eq_some_iff.mp found)
      case h_2 => cases stopped
  · intro first
    cases first with
    | rule listed flawless has =>
      simp only [RuleDefinition.sweep_eq_error_iff.mpr ⟨_, _, _, _, listed, flawless, has⟩]
    | scoring flawless has =>
      obtain ⟨rules, passed⟩ := RuleDefinition.exists_sweep_iff.mpr flawless
      simp only [passed, ScoringConfig.defect?_eq_some_iff.mpr has]

theorem compile_eq_error_iff {error : PolicyError} :
    policy.compile = .error error ↔ policy.FirstDefect error := by
  rw [← sweep_eq_error_iff, ← map_rules_compile]
  cases policy.compile <;> simp [Except.map]

/-- A policy compiles exactly if no definition has a defect in its place and the scoring has
none. -/
theorem exists_compile_iff :
    (∃ compiled, policy.compile = .ok compiled) ↔
      Flawless policy.entries ∧ policy.scoring.IsSound := by
  constructor
  · rintro ⟨compiled, success⟩
    have swept := map_rules_compile policy
    simp only [success, Except.map, sweep] at swept
    split at swept
    case h_1 => cases swept
    case h_2 rules passed =>
      exact ⟨RuleDefinition.exists_sweep_iff.mp ⟨rules, passed⟩,
        (compilesTo_of_compile success).scores⟩
  · rintro ⟨flawless, sound⟩
    obtain ⟨rules, passed⟩ := RuleDefinition.exists_sweep_iff.mpr flawless
    have swept := map_rules_compile policy
    simp only [sweep, passed, ScoringConfig.defect?_eq_none_iff.mpr sound] at swept
    cases success : policy.compile with
    | error error => simp [success, Except.map] at swept
    | ok compiled => exact ⟨compiled, rfl⟩

/-- Compiling a policy is one pass over the definitions of both trees in pre-order, and it fails
with the first defect or gives the same trees with a rule for each definition. -/
theorem compile_is_one_pass (policy : Policy) :
    policy.compile.map CompiledPolicy.rules = policy.sweep ∧
      (∀ compiled, policy.compile = .ok compiled ↔ policy.CompilesTo compiled) ∧
      (∀ error, policy.compile = .error error ↔ policy.FirstDefect error) ∧
      ((∃ compiled, policy.compile = .ok compiled) ↔
        Flawless policy.entries ∧ policy.scoring.IsSound) := by
  refine ⟨map_rules_compile policy, fun compiled => ?_, fun error => ?_, ?_⟩
  · exact compile_eq_ok_iff
  · exact compile_eq_error_iff
  · exact exists_compile_iff

end Policy

end Underwriting
