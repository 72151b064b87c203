/-!
# Trees of rules

Rules are grouped: a group has rules of its own and further groups, and asks for all or for any of
them. The rules of a tree are listed in pre-order, a group's own rules before those of its groups.
-/

namespace Underwriting

/-- Whether a group asks for all of its members or for any. -/
inductive GroupLogic
  | all
  | any
deriving DecidableEq

/-- A group of rules with the groups inside it. -/
structure RuleTree (α : Type) where
  logic : GroupLogic
  rules : List α
  groups : List (RuleTree α)

namespace RuleTree

/-- The group that asks for all of no rules. -/
def empty {α : Type} : RuleTree α := ⟨.all, [], []⟩

mutual

/-- The rules of a tree in pre-order. -/
def flatten {α : Type} : RuleTree α → List α
  | ⟨_, rules, groups⟩ => rules ++ flattenAll groups

/-- The rules of several trees, one tree after the other. -/
def flattenAll {α : Type} : List (RuleTree α) → List α
  | [] => []
  | group :: rest => flatten group ++ flattenAll rest

end

mutual

/-- The number of rules in a tree. -/
def ruleCount {α : Type} : RuleTree α → Nat
  | ⟨_, rules, groups⟩ => rules.length + ruleCountAll groups

/-- The number of rules in several trees. -/
def ruleCountAll {α : Type} : List (RuleTree α) → Nat
  | [] => 0
  | group :: rest => ruleCount group + ruleCountAll rest

end

end RuleTree

end Underwriting
