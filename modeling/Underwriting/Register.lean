/-!
# Registers

Records filed under keys; filing a record under a key takes the place of the one before. The view
of a register is `find?`.
-/

namespace Underwriting

/-- Records under their keys. -/
structure Register (κ ν : Type) where
  entries : List (κ × ν)

namespace Register

variable {κ ν : Type} [DecidableEq κ]

/-- The register without records. -/
def empty : Register κ ν := ⟨[]⟩

/-- The record under a key. -/
def find? (register : Register κ ν) (key : κ) : Option ν := register.entries.lookup key

/-- Files a record under a key. -/
def put (register : Register κ ν) (key : κ) (record : ν) : Register κ ν :=
  ⟨(key, record) :: register.entries.filter fun entry => entry.1 ≠ key⟩

private theorem lookup_filter_ne {key other : κ} (different : other ≠ key) :
    (entries : List (κ × ν)) →
      (entries.filter fun entry => entry.1 ≠ key).lookup other = entries.lookup other
  | [] => rfl
  | (held, record) :: rest => by
    have ih := lookup_filter_ne different rest
    by_cases same : held = key
    · subst same
      simp only [ne_eq, not_true_eq_false, decide_false, Bool.false_eq_true, not_false_eq_true,
        List.filter_cons_of_neg, List.lookup_cons, beq_eq_false_iff_ne.mpr different]
      exact ih
    · by_cases found : other = held
      · subst found
        simp [same]
      · simp only [ne_eq, same, not_false_eq_true, decide_true, List.filter_cons_of_pos,
          List.lookup_cons, beq_eq_false_iff_ne.mpr found]
        exact ih

/-- After filing a record its key has it, and all other keys have what they had. -/
theorem find?_put (register : Register κ ν) (key other : κ) (record : ν) :
    (register.put key record).find? other =
      if other = key then some record else register.find? other := by
  unfold find? put
  by_cases same : other = key
  · subst same
    simp
  · simp only [List.lookup_cons, beq_eq_false_iff_ne.mpr same, same, ↓reduceIte]
    exact lookup_filter_ne same register.entries

end Register

end Underwriting
