import Mathlib.Data.List.DropRight
import Underwriting.Proofs.Text.Numeral
import Underwriting.Text.Blank
import Underwriting.Text.Split

/-! # Text at its separators and at its ends

Pieces without the separator come apart as they were put together. White space at the ends of a
text is taken off once and for all, and a text without any is left alone.
-/

namespace Underwriting

section Splitting

theorem splitOn_of_not_mem {separator : Char} {text : List Char} (absent : separator ∉ text) :
    splitOn separator text = [text] := by
  induction text with
  | nil => rfl
  | cons character rest ih =>
    obtain ⟨other, absent⟩ := not_or.mp (mt List.mem_cons.mpr absent)
    simp only [splitOn, if_neg (Ne.symm other), ih absent]

/-- What stands in front of the first separator is the first piece. -/
theorem splitOn_append_cons {separator : Char} {front : List Char} (absent : separator ∉ front)
    (rest : List Char) :
    splitOn separator (front ++ separator :: rest) = front :: splitOn separator rest := by
  induction front with
  | nil => simp only [List.nil_append, splitOn, ↓reduceIte]
  | cons character front ih =>
    obtain ⟨other, absent⟩ := not_or.mp (mt List.mem_cons.mpr absent)
    simp only [List.cons_append, splitOn, if_neg (Ne.symm other), ih absent]

/-- Pieces without the separator come apart as they were put together. -/
theorem splitOn_intercalate {separator : Char} {pieces : List (List Char)} (some : pieces ≠ [])
    (plain : ∀ piece ∈ pieces, separator ∉ piece) :
    splitOn separator (List.intercalate [separator] pieces) = pieces := by
  induction pieces with
  | nil => exact absurd rfl some
  | cons first rest ih =>
    obtain ⟨absent, others⟩ := List.forall_mem_cons.mp plain
    cases rest with
    | nil =>
      rw [List.intercalate_singleton, splitOn_of_not_mem absent]
    | cons second rest =>
      rw [List.intercalate_cons_cons, List.append_assoc, List.singleton_append,
        splitOn_append_cons absent, ih (List.cons_ne_nil _ _) others]

/-- The pieces put together hold nothing but what they hold themselves, and separators. -/
theorem mem_intercalate {separator character : Char} {pieces : List (List Char)}
    (member : character ∈ List.intercalate [separator] pieces) :
    character = separator ∨ ∃ piece ∈ pieces, character ∈ piece := by
  induction pieces with
  | nil => cases member
  | cons first rest ih =>
    cases rest with
    | nil =>
      rw [List.intercalate_singleton] at member
      exact .inr ⟨first, List.mem_cons_self, member⟩
    | cons second rest =>
      rw [List.intercalate_cons_cons, List.append_assoc, List.mem_append, List.mem_append,
        List.mem_singleton] at member
      rcases member with here | same | later
      · exact .inr ⟨first, List.mem_cons_self, here⟩
      · exact .inl same
      · rcases ih later with same | ⟨piece, listed, within⟩
        · exact .inl same
        · exact .inr ⟨piece, List.mem_cons_of_mem _ listed, within⟩

end Splitting

section Trimming

/-- The visible ASCII characters are not white space. -/
theorem isBlank_of_visible {character : Char} (least : '!' ≤ character) (most : character ≤ '~') :
    isBlank character = false := by
  rw [Char.le_def, UInt32.le_iff_toNat_le] at least most
  have least : 33 ≤ character.toNat := least
  have most : character.toNat ≤ 126 := most
  simp only [isBlank, blankRanges, List.any_cons, List.any_nil, Bool.or_eq_false_iff,
    Bool.and_eq_false_iff, decide_eq_false_iff_not, Nat.not_le, and_true]
  omega

theorem isBlank_of_isDigit {character : Char} (digit : Numeral.isDigit character = true) :
    isBlank character = false := by
  simp only [Numeral.isDigit, Bool.and_eq_true, decide_eq_true_eq] at digit
  exact isBlank_of_visible (Char.le_trans (by decide) digit.1) (Char.le_trans digit.2 (by decide))

/-- Nothing is left to take off from the front of a text without white space there, whatever is
taken off from its end. -/
private theorem dropWhile_rdropWhile {characters : List Char}
    (trimmedFront : characters.dropWhile isBlank = characters) :
    (characters.rdropWhile isBlank).dropWhile isBlank = characters.rdropWhile isBlank := by
  obtain ⟨back, split⟩ := List.rdropWhile_prefix isBlank (l := characters)
  cases front : characters.rdropWhile isBlank with
  | nil => rfl
  | cons first rest =>
    rw [front, List.cons_append] at split
    rw [List.dropWhile_eq_self_iff] at trimmedFront ⊢
    intro _
    subst split
    exact trimmedFront (Nat.succ_pos _)

theorem trimmed_trimmed (text : String) : trimmed (trimmed text) = trimmed text := by
  have again (characters : List Char) :
      trimBlanks (trimBlanks characters) = trimBlanks characters := by
    change ((characters.dropWhile isBlank).rdropWhile isBlank |>.dropWhile isBlank).rdropWhile
      isBlank = (characters.dropWhile isBlank).rdropWhile isBlank
    rw [dropWhile_rdropWhile (List.dropWhile_idempotent _ _), List.rdropWhile_idempotent]
  simp only [trimmed, String.toList_ofList, again]

/-- Nothing is taken off from a text without white space. -/
theorem trimBlanks_of_visible {text : List Char}
    (visible : ∀ character ∈ text, isBlank character = false) : trimBlanks text = text := by
  have none {characters : List Char} (plain : ∀ character ∈ characters, isBlank character = false) :
      characters.dropWhile isBlank = characters := by
    cases characters with
    | nil => rfl
    | cons first rest =>
      rw [List.dropWhile_cons, plain first List.mem_cons_self, if_neg (by decide)]
  have reversed : ∀ character ∈ text.reverse, isBlank character = false :=
    fun character member => visible character (List.mem_reverse.mp member)
  rw [trimBlanks, none visible, none reversed, List.reverse_reverse]

end Trimming

end Underwriting
