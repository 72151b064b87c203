/-!
# Splitting text

Text cut at every occurrence of a separator. There is always at least one piece, and pieces may be
empty.
-/

namespace Underwriting

/-- The pieces between the separators. -/
def splitOn (separator : Char) : List Char → List (List Char)
  | [] => [[]]
  | character :: rest =>
    if character = separator then [] :: splitOn separator rest
    else match splitOn separator rest with
      | first :: more => (character :: first) :: more
      | [] => [[character]]

/-- Splitting never gives an empty list of pieces. -/
theorem splitOn_ne_nil (separator : Char) (text : List Char) : splitOn separator text ≠ [] := by
  cases text with
  | nil => simp [splitOn]
  | cons character rest =>
    unfold splitOn
    split
    · simp
    · split <;> simp

/-- The pieces with the separator between them are the text again. -/
theorem intercalate_splitOn (separator : Char) (text : List Char) :
    List.intercalate [separator] (splitOn separator text) = text := by
  induction text with
  | nil => rfl
  | cons character rest ih =>
    have nonempty := splitOn_ne_nil separator rest
    unfold splitOn
    split
    · next same =>
      subst same
      match pieces : splitOn character rest with
      | [] => exact absurd pieces nonempty
      | first :: more =>
        rw [pieces] at ih
        simp_all [List.intercalate, List.intersperse]
    · split
      · next first more pieces =>
        rw [pieces] at ih
        cases more <;> simp_all [List.intercalate, List.intersperse]
      · next pieces => exact absurd pieces nonempty

end Underwriting
