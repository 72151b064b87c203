import Mathlib.Data.List.Induction
import Mathlib.Data.Nat.Digits.Defs
import Underwriting.Text.Numeral

/-! # Numerals and what they stand for

A numeral is read as the number that its digits stand for, the last of them the units, with any
zeros in front of it and perhaps a plus sign before them. What is written for a number is one of its
numerals, so a number is read back, and different numbers are written differently.
-/

namespace Underwriting.Numeral

/-- The number that digits stand for. -/
def amount (text : List Char) : Nat :=
  Nat.ofDigits 10 (text.reverse.map fun character => character.toNat - '0'.toNat)

/-- One or more decimal digits that stand for a number. -/
structure Denotes (text : List Char) (whole : Nat) : Prop where
  nonempty : text ≠ []
  areDigits : ∀ character ∈ text, isDigit character = true
  amount : amount text = whole

section Reading

variable {text : List Char} {whole limit : Nat}

theorem amount_append (front back : List Char) :
    amount (front ++ back) = amount front * 10 ^ back.length + amount back := by
  rw [amount, List.reverse_append, List.map_append, Nat.ofDigits_append, List.length_map,
    List.length_reverse, Nat.add_comm, Nat.mul_comm]
  rfl

theorem amount_zeros (count : Nat) : amount (List.replicate count '0') = 0 := by
  rw [amount, List.reverse_replicate, List.map_replicate, Nat.sub_self, Nat.ofDigits_replicate_zero]

private theorem value?_concat (front : List Char) (last : Char) :
    value? (front ++ [last]) =
      (value? front).bind fun value => (digitValue? last).map fun digit => 10 * value + digit := by
  rw [value?, List.foldl_append, List.foldl_cons, List.foldl_nil, ← value?]
  cases value? front <;> cases digitValue? last <;> rfl

/-- Digits are read as the number they stand for, and nothing else is read. -/
theorem value?_eq (text : List Char) :
    value? text = if text.all isDigit then some (amount text) else none := by
  induction text using List.reverseRecOn with
  | nil => rfl
  | append_singleton front last ih =>
    have digit : digitValue? last = if isDigit last then some (amount [last]) else none := by
      simp [digitValue?, isDigit, amount]
    rw [value?_concat, ih, digit, amount_append, List.all_append, List.all_cons, List.all_nil,
      Bool.and_true, List.length_singleton, Nat.pow_one, Nat.mul_comm]
    cases front.all isDigit <;> cases isDigit last <;> rfl

theorem value?_eq_some_iff :
    value? text = some whole ↔
      (∀ character ∈ text, isDigit character = true) ∧ amount text = whole := by
  rw [value?_eq, Option.ite_none_right_eq_some, List.all_eq_true, Option.some.injEq]

theorem denotes_iff : Denotes text whole ↔ text ≠ [] ∧ value? text = some whole := by
  rw [value?_eq_some_iff]
  constructor
  · rintro ⟨nonempty, areDigits, amount⟩
    exact ⟨nonempty, areDigits, amount⟩
  · rintro ⟨nonempty, areDigits, amount⟩
    exact ⟨nonempty, areDigits, amount⟩

private theorem read?_signed (digits : List Char) :
    read? limit ('+' :: digits) = some whole ↔ whole ≤ limit ∧ Denotes digits whole := by
  rw [denotes_iff]
  cases digits with
  | nil => simp [read?]
  | cons first rest =>
    simp only [read?, List.isEmpty_cons, Bool.false_eq_true, ↓reduceIte, ne_eq, reduceCtorEq,
      not_false_eq_true, true_and]
    cases value? (first :: rest) <;> grind

private theorem read?_unsigned (other : ∀ digits, text ≠ '+' :: digits) :
    read? limit text = read? limit ('+' :: text) := by
  unfold read?
  split
  · rename_i digits
    exact absurd rfl (other digits)
  · rfl

/-- A number within a limit is read from its digits, perhaps behind a plus sign. -/
theorem read?_eq_some_iff :
    read? limit text = some whole ↔ whole ≤ limit ∧
      (Denotes text whole ∨ ∃ digits, text = '+' :: digits ∧ Denotes digits whole) := by
  by_cases signed : ∃ digits, text = '+' :: digits
  · obtain ⟨digits, rfl⟩ := signed
    have sign : ¬ Denotes ('+' :: digits) whole := by
      intro denotes
      exact absurd (denotes.areDigits '+' List.mem_cons_self) (by decide)
    simp only [read?_signed, sign, List.cons.injEq, true_and, exists_eq_left', false_or]
  · rw [read?_unsigned (not_exists.mp signed), read?_signed, or_iff_left]
    rintro ⟨digits, sign, -⟩
    exact signed ⟨digits, sign⟩

end Reading

section Writing

theorem isDigit_digitChar {digit : Nat} (small : digit < 10) :
    isDigit (digitChar digit) = true := by
  decide +revert

theorem digitValue?_digitChar {digit : Nat} (small : digit < 10) :
    digitValue? (digitChar digit) = some digit := by
  decide +revert

theorem digitsBefore_eq_append (whole : Nat) (tail : List Char) :
    digitsBefore whole tail = digits whole ++ tail := by
  induction whole using Nat.strongRecOn generalizing tail with
  | ind whole ih =>
    rw [digits, digitsBefore, digitsBefore.eq_def whole []]
    split
    · rfl
    · rename_i large
      have less : whole / 10 < whole := by omega
      rw [ih _ less, ih _ less [digitChar (whole % 10)], List.append_assoc, List.singleton_append]

/-- The digits of a number are those of its tenth and one more. -/
theorem digits_of_ten_le {whole : Nat} (large : 10 ≤ whole) :
    digits whole = digits (whole / 10) ++ [digitChar (whole % 10)] := by
  rw [digits, digitsBefore, if_neg (Nat.not_lt.mpr large), digitsBefore_eq_append]

theorem digits_of_lt_ten {whole : Nat} (small : whole < 10) : digits whole = [digitChar whole] := by
  rw [digits, digitsBefore, if_pos small]

/-- Digits that were written are digits, and read as the number. -/
theorem digits_spec (whole : Nat) :
    (∀ character ∈ digits whole, isDigit character = true) ∧
      value? (digits whole) = some whole := by
  induction whole using Nat.strongRecOn with
  | ind whole ih =>
    by_cases small : whole < 10
    · rw [digits_of_lt_ten small]
      refine ⟨fun character present => ?_, ?_⟩
      · rw [List.mem_singleton.mp present]
        exact isDigit_digitChar small
      · simp only [value?, List.foldl_cons, List.foldl_nil, digitValue?_digitChar small,
          Nat.mul_zero, Nat.zero_add]
    · have last : whole % 10 < 10 := Nat.mod_lt _ (by decide)
      obtain ⟨areDigits, read⟩ := ih (whole / 10) (by omega)
      rw [digits_of_ten_le (Nat.not_lt.mp small)]
      refine ⟨fun character present => ?_, ?_⟩
      · rcases List.mem_append.mp present with leading | final
        · exact areDigits character leading
        · rw [List.mem_singleton.mp final]
          exact isDigit_digitChar last
      · rw [value?_concat, read, digitValue?_digitChar last, Option.bind_some, Option.map_some,
          Nat.div_add_mod]

theorem length_digits_pos (whole : Nat) : 0 < (digits whole).length := by
  by_cases small : whole < 10
  · rw [digits_of_lt_ten small]
    exact Nat.one_pos
  · rw [digits_of_ten_le (Nat.not_lt.mp small), List.length_append]
    exact Nat.succ_pos _

theorem length_digits_le {width whole : Nat} (fits : whole < Nat.pow 10 (width + 1)) :
    (digits whole).length ≤ width + 1 := by
  induction width generalizing whole with
  | zero =>
    rw [digits_of_lt_ten fits]
    exact Nat.le_refl _
  | succ width ih =>
    by_cases small : whole < 10
    · rw [digits_of_lt_ten small]
      exact Nat.succ_pos _
    · have tenth : whole / 10 < Nat.pow 10 (width + 1) := by
        rw [Nat.pow_eq, Nat.pow_succ, ← Nat.pow_eq] at fits
        omega
      rw [digits_of_ten_le (Nat.not_lt.mp small), List.length_append]
      exact Nat.succ_le_succ (ih tenth)

theorem value?_zeros_append (count : Nat) (characters : List Char) :
    value? (List.replicate count '0' ++ characters) = value? characters := by
  induction count with
  | zero => rfl
  | succ count ih =>
    rw [← ih]
    rfl

/-- No character but a digit is among the digits of a number. -/
theorem not_mem_digits {character : Char} (other : isDigit character = false) (whole : Nat) :
    character ∉ digits whole := by
  intro member
  rw [(digits_spec whole).1 character member] at other
  cases other

theorem digits_ne_nil (whole : Nat) : digits whole ≠ [] :=
  List.ne_nil_of_length_pos (length_digits_pos whole)

theorem denotes_digits (whole : Nat) : Denotes (digits whole) whole :=
  denotes_iff.mpr ⟨digits_ne_nil whole, (digits_spec whole).2⟩

/-- The digits of a number are read as the number if it is within the limit. -/
theorem read?_digits {whole limit : Nat} (within : whole ≤ limit) :
    read? limit (digits whole) = some whole :=
  read?_eq_some_iff.mpr ⟨within, .inl (denotes_digits whole)⟩

end Writing

end Underwriting.Numeral
