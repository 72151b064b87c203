import Underwriting.Policy.RuleTree

/-! # Trees and their rules in pre-order

A tree of rules is its shape, which says how groups nest, what each asks for and how many rules each
has of its own, together with its rules in pre-order. Neither part says anything of the other, and
both together determine the tree, so what is shown of the rules in their order and of the shape is
shown of the tree. Whatever holds of a group as soon as it holds of its inner groups holds of every
tree.
-/

namespace Underwriting

namespace RuleTree

variable {α : Type}

section Groups

/-- What a group takes over from its inner groups holds of every tree. -/
@[elab_as_elim]
theorem groupInduction {motive : RuleTree α → Prop}
    (group : ∀ logic rules groups, (∀ inner ∈ groups, motive inner) →
      motive ⟨logic, rules, groups⟩) : (tree : RuleTree α) → motive tree
  | ⟨logic, rules, groups⟩ =>
    group logic rules groups fun inner _ => groupInduction group inner

/-- The first tree is the second one or a group somewhere inside it. -/
inductive Within : RuleTree α → RuleTree α → Prop
  | self (tree : RuleTree α) : Within tree tree
  | inner {group next tree : RuleTree α} : next ∈ tree.groups → Within group next →
      Within group tree

theorem mem_flattenAll {rule : α} {groups : List (RuleTree α)} :
    rule ∈ flattenAll groups ↔ ∃ group ∈ groups, rule ∈ group.flatten := by
  induction groups with
  | nil => simp only [flattenAll, List.not_mem_nil, false_and, exists_false]
  | cons group rest ih =>
    simp only [flattenAll, List.mem_append, ih, List.mem_cons, exists_eq_or_imp]

/-- The rules of a group are its own and those of its inner groups. -/
theorem mem_flatten {rule : α} {logic : GroupLogic} {rules : List α} {groups : List (RuleTree α)} :
    rule ∈ flatten ⟨logic, rules, groups⟩ ↔
      rule ∈ rules ∨ ∃ group ∈ groups, rule ∈ group.flatten := by
  rw [flatten, List.mem_append, mem_flattenAll]

/-- Something holds of the tree and of every group inside it. -/
def Throughout (holds : RuleTree α → Prop) (tree : RuleTree α) : Prop :=
  ∀ group : RuleTree α, group.Within tree → holds group

/-- What holds throughout a group holds of it and throughout its inner groups. -/
theorem throughout_iff {holds : RuleTree α → Prop} {logic : GroupLogic} {rules : List α}
    {groups : List (RuleTree α)} :
    Throughout holds ⟨logic, rules, groups⟩ ↔
      holds ⟨logic, rules, groups⟩ ∧ ∀ group ∈ groups, group.Throughout holds := by
  constructor
  · intro all
    exact ⟨all _ (.self _), fun group member below within => all below (.inner member within)⟩
  · rintro ⟨here, inner⟩ group within
    cases within with
    | self => exact here
    | inner member within => exact inner _ member group within

/-- Every group of the tree asks for all of its members. -/
def AsksForAll (tree : RuleTree α) : Prop := tree.Throughout fun group => group.logic = .all

/-- Every group of the tree that has this logic has a rule of its own or an inner group. -/
def IsPopulated (logic : GroupLogic) (tree : RuleTree α) : Prop :=
  tree.Throughout fun group => group.logic = logic → group.rules ≠ [] ∨ group.groups ≠ []

end Groups

mutual

/-- A tree without what its rules say. -/
def shape : RuleTree α → RuleTree Unit
  | ⟨logic, rules, groups⟩ => ⟨logic, rules.map fun _ => (), shapeAll groups⟩

/-- Several trees without what their rules say. -/
def shapeAll : List (RuleTree α) → List (RuleTree Unit)
  | [] => []
  | group :: rest => shape group :: shapeAll rest

end

mutual

/-- The number of rules in a tree is that of its rules in pre-order. -/
theorem length_flatten : (tree : RuleTree α) → tree.flatten.length = tree.ruleCount
  | ⟨_, rules, groups⟩ => by
    rw [flatten, ruleCount, List.length_append, length_flattenAll groups]

theorem length_flattenAll : (trees : List (RuleTree α)) →
    (flattenAll trees).length = ruleCountAll trees
  | [] => rfl
  | group :: rest => by
    rw [flattenAll, ruleCountAll, List.length_append, length_flatten group, length_flattenAll rest]

end

mutual

theorem ruleCount_shape : (tree : RuleTree α) → tree.shape.ruleCount = tree.ruleCount
  | ⟨_, rules, groups⟩ => by
    rw [shape, ruleCount, ruleCount, List.length_map, ruleCountAll_shapeAll groups]

theorem ruleCountAll_shapeAll : (trees : List (RuleTree α)) →
    ruleCountAll (shapeAll trees) = ruleCountAll trees
  | [] => rfl
  | group :: rest => by
    rw [shapeAll, ruleCountAll, ruleCountAll, ruleCount_shape group, ruleCountAll_shapeAll rest]

end

theorem shapeAll_eq_map (trees : List (RuleTree α)) : shapeAll trees = trees.map shape := by
  induction trees with
  | nil => rfl
  | cons tree rest ih => rw [shapeAll, ih, List.map_cons]

section SameShape

variable {β : Type}

/-- Trees of one shape have groups of the same shapes inside them. -/
theorem Within.exists_of_shape {group tree : RuleTree α} {other : RuleTree β}
    (within : group.Within tree) (same : tree.shape = other.shape) :
    ∃ counterpart : RuleTree β, counterpart.Within other ∧ group.shape = counterpart.shape := by
  induction within generalizing other with
  | self => exact ⟨other, .self other, same⟩
  | @inner next tree member within ih =>
    obtain ⟨logic, rules, groups⟩ := tree
    obtain ⟨otherLogic, otherRules, otherGroups⟩ := other
    have listed : next.shape ∈ otherGroups.map shape := by
      rw [← shapeAll_eq_map, ← (mk.inj same).2.2, shapeAll_eq_map]
      exact List.mem_map_of_mem member
    obtain ⟨counterpart, present, sameNext⟩ := List.mem_map.mp listed
    obtain ⟨below, inside, sameGroup⟩ := ih sameNext.symm
    exact ⟨below, .inner present inside, sameGroup⟩

/-- Which groups have members can be told from the shape. -/
theorem isPopulated_of_shape {logic : GroupLogic} {tree : RuleTree α} {other : RuleTree β}
    (same : tree.shape = other.shape) (populated : tree.IsPopulated logic) :
    other.IsPopulated logic := by
  intro group within asks
  obtain ⟨⟨_, rules, groups⟩, inside, sameGroup⟩ := within.exists_of_shape same.symm
  obtain ⟨groupLogic, groupRules, groupGroups⟩ := group
  obtain ⟨rfl, sameRules, sameGroups⟩ := mk.inj sameGroup
  rw [shapeAll_eq_map, shapeAll_eq_map] at sameGroups
  refine (populated _ inside asks).imp ?_ ?_
  · rintro present rfl
    exact present (List.map_eq_nil_iff.mp sameRules.symm)
  · rintro present rfl
    exact present (List.map_eq_nil_iff.mp sameGroups.symm)

end SameShape

theorem length_flatten_of_shape {first second : RuleTree α} (same : first.shape = second.shape) :
    first.flatten.length = second.flatten.length := by
  rw [length_flatten, length_flatten, ← ruleCount_shape first, same, ruleCount_shape]

mutual

/-- Trees of one shape with the same rules in pre-order are the same tree. -/
theorem eq_of_shape_of_flatten : (first second : RuleTree α) → first.shape = second.shape →
    first.flatten = second.flatten → first = second
  | ⟨_, rules, groups⟩, ⟨_, otherRules, otherGroups⟩, sameShape, sameRules => by
    simp only [shape, mk.injEq] at sameShape
    obtain ⟨rfl, sameOwn, sameInner⟩ := sameShape
    have own : rules.length = otherRules.length := by
      simpa only [List.length_map] using congrArg List.length sameOwn
    obtain ⟨rfl, inner⟩ := List.append_inj (by simpa only [flatten] using sameRules) own
    rw [eq_of_shapeAll_of_flattenAll groups otherGroups sameInner inner]

theorem eq_of_shapeAll_of_flattenAll : (first second : List (RuleTree α)) →
    shapeAll first = shapeAll second → flattenAll first = flattenAll second → first = second
  | [], [], _, _ => rfl
  | [], _ :: _, sameShape, _ => by cases sameShape
  | _ :: _, [], sameShape, _ => by cases sameShape
  | group :: rest, other :: others, sameShape, sameRules => by
    obtain ⟨sameHead, sameTail⟩ := List.cons.inj sameShape
    obtain ⟨head, tail⟩ := List.append_inj (by simpa only [flattenAll] using sameRules)
      (length_flatten_of_shape sameHead)
    rw [eq_of_shape_of_flatten group other sameHead head,
      eq_of_shapeAll_of_flattenAll rest others sameTail tail]

end

end RuleTree

end Underwriting
