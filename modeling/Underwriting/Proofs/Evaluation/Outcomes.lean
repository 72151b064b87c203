import Underwriting.Evaluation.Rules

/-! # The outcomes of a tree of rules

Every rule of a tree is evaluated on its own, whatever its group asks for: the outcomes are those of
the rules in pre-order. An outcome has the id of its rule and the path of its field, and a message
exactly if the rule failed.
-/

namespace Underwriting

namespace Rule

@[simp] theorem evaluate_ruleId (rule : Rule) (application : Application) :
    (rule.evaluate application).ruleId = rule.id := by
  unfold evaluate
  split
  · rfl
  · split <;> rfl

@[simp] theorem evaluate_field (rule : Rule) (application : Application) :
    (rule.evaluate application).field = rule.field.text := by
  unfold evaluate
  split
  · rfl
  · split <;> rfl

@[simp] theorem isSome_message?_evaluate (rule : Rule) (application : Application) :
    (rule.evaluate application).message?.isSome = !(rule.evaluate application).passed := by
  unfold evaluate
  split
  · rfl
  · split <;> rfl

end Rule

namespace RuleTree

mutual

/-- The outcomes of a tree are those of its rules in pre-order. -/
theorem outcomes_evaluate (application : Application) : (tree : RuleTree Rule) →
    (tree.evaluate application).outcomes = tree.flatten.map fun rule => rule.evaluate application
  | ⟨_, _, groups⟩ => by
    simp only [evaluate, flatten, List.map_append, outcomes_evaluateAll application groups]

theorem outcomes_evaluateAll (application : Application) : (trees : List (RuleTree Rule)) →
    (evaluateAll application trees).flatMap (·.outcomes) =
      (flattenAll trees).map fun rule => rule.evaluate application
  | [] => rfl
  | group :: rest => by
    rw [evaluateAll, List.flatMap_cons, outcomes_evaluate application group,
      outcomes_evaluateAll application rest, flattenAll, List.map_append]

end

end RuleTree

end Underwriting
