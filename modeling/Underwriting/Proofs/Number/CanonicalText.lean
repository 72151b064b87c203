import Underwriting.Number.Reading
import Underwriting.Proofs.Number.Equality
import Underwriting.Proofs.Number.Shortest
import Underwriting.Proofs.Number.Whole
import Underwriting.Proofs.Text.Numeral

/-! # Canonical texts tell numbers apart

Digits with a point among them stand for one position, whatever zeros fill the places up to the
point. A canonical text is a sign in front of such digits, and they stand for a position that is
rounded to the number, both where the number is written as an integer and where it is written as
its shortest decimal. So numbers of one text have intervals that meet: they are the same number, or
both are zero.
-/

namespace Underwriting

namespace Decimal

open Numeral (amount isDigit)

section Plain

variable {whole fraction : List Char}

/-- The position that digits stand for, perhaps with a point among them. -/
def positionOf (text : List Char) : Nat :=
  let (whole, rest) := Binary64.takeDigits text
  let (fraction, _) := Binary64.takeFraction rest
  amount (whole ++ fraction) * 10 ^ (1075 - fraction.length)

private theorem takeDigits_append (digits : ∀ character ∈ whole, isDigit character = true)
    (rest : List Char) (stop : ∀ mark ∈ rest.head?, isDigit mark = false) :
    Binary64.takeDigits (whole ++ rest) = (whole, rest) := by
  have front : rest.takeWhile isDigit = [] := by
    cases rest with
    | nil => rfl
    | cons mark rest => rw [List.takeWhile_cons_of_neg (by rw [stop mark rfl]; decide)]
  have back : rest.dropWhile isDigit = rest := by
    cases rest with
    | nil => rfl
    | cons mark rest => rw [List.dropWhile_cons_of_neg (by rw [stop mark rfl]; decide)]
  rw [Binary64.takeDigits, List.takeWhile_append_of_pos digits, List.dropWhile_append_of_pos digits,
    front, back, List.append_nil]

theorem positionOf_whole (digits : ∀ character ∈ whole, isDigit character = true) :
    positionOf whole = amount whole * 10 ^ 1075 := by
  have read := takeDigits_append digits [] (by simp)
  rw [List.append_nil] at read
  simp only [positionOf, read, Binary64.takeFraction, List.append_nil, List.length_nil,
    Nat.sub_zero]

theorem positionOf_pointed (digits : ∀ character ∈ whole, isDigit character = true)
    (places : ∀ character ∈ fraction, isDigit character = true) :
    positionOf (whole ++ '.' :: fraction) =
      amount (whole ++ fraction) * 10 ^ (1075 - fraction.length) := by
  have read := takeDigits_append digits ('.' :: fraction) (by simp; decide)
  have readPlaces := takeDigits_append places [] (by simp)
  rw [List.append_nil] at readPlaces
  simp only [positionOf, read, Binary64.takeFraction, readPlaces]

private theorem isDigit_of_mem_zeros {count : Nat} (character : Char)
    (member : character ∈ List.replicate count '0') : isDigit character = true := by
  rw [List.eq_of_mem_replicate member]
  rfl

/-- A decimal without places behind the point is written without a point. -/
private theorem plain_of_nonneg {decimal : Decimal} (nonneg : 0 ≤ decimal.exponent) :
    decimal.plain ≠ [] ∧ (∀ character ∈ decimal.plain, isDigit character = true) ∧
      amount decimal.plain = decimal.coefficient * 10 ^ decimal.exponent.toNat := by
  obtain ⟨some, digits, value⟩ := Numeral.denotes_digits decimal.coefficient
  have text : decimal.plain =
      Numeral.digits decimal.coefficient ++ List.replicate decimal.exponent.toNat '0' := by
    simp only [plain, ge_iff_le, nonneg, ↓reduceIte]
  rw [text, Numeral.amount_append, value, Numeral.amount_zeros, List.length_replicate,
    Nat.add_zero]
  exact ⟨List.append_ne_nil_of_left_ne_nil some _,
    List.forall_mem_append.mpr ⟨digits, isDigit_of_mem_zeros⟩, rfl⟩

/-- A decimal with places behind the point has that many digits behind it, and its coefficient is
what all digits stand for. -/
private theorem plain_of_neg {decimal : Decimal} (negative : decimal.exponent < 0) :
    ∃ whole fraction, decimal.plain = whole ++ '.' :: fraction ∧ whole ≠ [] ∧
      (∀ character ∈ whole ++ fraction, isDigit character = true) ∧
      fraction.length = (-decimal.exponent).toNat ∧
      amount (whole ++ fraction) = decimal.coefficient := by
  obtain ⟨-, areDigits, value⟩ := Numeral.denotes_digits decimal.coefficient
  generalize written : Numeral.digits decimal.coefficient = digits at areDigits value
  by_cases inside : (-decimal.exponent).toNat < digits.length
  · refine ⟨digits.take (digits.length - (-decimal.exponent).toNat),
      digits.drop (digits.length - (-decimal.exponent).toNat), ?_, ?_, ?_, ?_, ?_⟩
    · simp only [plain, written, ge_iff_le, Int.not_le.mpr negative, inside, ↓reduceIte]
    · refine List.ne_nil_of_length_pos ?_
      rw [List.length_take]
      omega
    · rwa [List.take_append_drop]
    · rw [List.length_drop]
      omega
    · rwa [List.take_append_drop]
  · refine ⟨['0'], List.replicate ((-decimal.exponent).toNat - digits.length) '0' ++ digits, ?_,
      List.cons_ne_nil _ _, ?_, ?_, ?_⟩
    · simp only [plain, written, ge_iff_le, Int.not_le.mpr negative, inside, ↓reduceIte,
        List.cons_append, List.nil_append]
    · rw [List.singleton_append, List.forall_mem_cons, List.forall_mem_append]
      exact ⟨rfl, isDigit_of_mem_zeros, areDigits⟩
    · rw [List.length_append, List.length_replicate]
      omega
    · have zero : amount ['0'] = 0 := Numeral.amount_zeros 1
      rw [Numeral.amount_append, Numeral.amount_append, Numeral.amount_zeros, value, zero,
        Nat.zero_mul, Nat.zero_mul, Nat.zero_add, Nat.zero_add]

theorem positionOf_plain {decimal : Decimal} (least : -1075 ≤ decimal.exponent) :
    positionOf decimal.plain = decimal.position := by
  by_cases negative : decimal.exponent < 0
  · obtain ⟨whole, fraction, text, -, digits, length, value⟩ := plain_of_neg negative
    obtain ⟨digits, places⟩ := List.forall_mem_append.mp digits
    rw [text, positionOf_pointed digits places, value, length, position]
    congr 2
    omega
  · obtain ⟨-, digits, value⟩ := plain_of_nonneg (Int.not_lt.mp negative)
    rw [positionOf_whole digits, value, position, Nat.mul_assoc, ← Nat.pow_add]
    congr 2
    omega

/-- The text of a decimal begins with a digit. -/
theorem exists_digit_of_plain (decimal : Decimal) :
    ∃ first rest, decimal.plain = first :: rest ∧ isDigit first = true := by
  by_cases negative : decimal.exponent < 0
  · obtain ⟨whole, fraction, text, some, digits, -, -⟩ := plain_of_neg negative
    obtain ⟨first, rest, rfl⟩ := List.exists_cons_of_ne_nil some
    exact ⟨first, rest ++ '.' :: fraction, text, digits first List.mem_cons_self⟩
  · obtain ⟨some, digits, -⟩ := plain_of_nonneg (Int.not_lt.mp negative)
    obtain ⟨first, rest, text⟩ := List.exists_cons_of_ne_nil some
    exact ⟨first, rest, text, digits first (text ▸ List.mem_cons_self)⟩

end Plain

end Decimal

namespace Binary64

variable {first second : Binary64}

/-- A text of a sign and digits determines the sign and the digits. -/
private theorem signed_plain_inj {left right : Bool} {decimal other : Decimal}
    (same : signed left decimal.plain = signed right other.plain) :
    left = right ∧ decimal.plain = other.plain := by
  obtain ⟨first, rest, text, digit⟩ := decimal.exists_digit_of_plain
  obtain ⟨second, others, otherText, otherDigit⟩ := other.exists_digit_of_plain
  rw [text, otherText] at same ⊢
  cases left with
  | false =>
    cases right with
    | false => exact ⟨rfl, same⟩
    | true =>
      cases same
      cases digit
  | true =>
    cases right with
    | false =>
      cases same
      cases otherDigit
    | true => exact ⟨rfl, (List.cons.inj same).2⟩

/-- The text is a sign in front of a decimal that is rounded to the magnitude. The sign is the given
one, unless the magnitude is zero. -/
def IsTextOf (text : String) (negative : Bool) (magnitude : Magnitude) : Prop :=
  ∃ (sign : Bool) (decimal : Decimal), text = String.ofList (signed sign decimal.plain) ∧
    -1075 ≤ decimal.exponent ∧ magnitude.roundsTo decimal.position = true ∧
    (sign = negative ∨ magnitude = .zero)

section Integers

theorem writeInt_eq (whole : Int) :
    Numeral.writeInt whole =
      String.ofList (signed (whole < 0) (Decimal.plain ⟨whole.natAbs, 0⟩)) := by
  have digits (size : Nat) : Decimal.plain ⟨size, 0⟩ = Numeral.digits size := by
    simp [Decimal.plain]
  rw [digits]
  cases whole with
  | ofNat size => rfl
  | negSucc size =>
    simp only [Numeral.writeInt, Int.negSucc_lt_zero, decide_true, signed, ↓reduceIte,
      Int.natAbs_negSucc, Nat.succ_eq_add_one]

private theorem position_eq_scaledPosition (size : Nat) :
    Decimal.position ⟨size, 0⟩ = Magnitude.scaledPosition (2 * (size * Magnitude.unitsPerOne)) := by
  have scale : 10 ^ 1075 = 2 * Magnitude.unitsPerOne * Nat.pow 5 1075 := by decide +kernel
  simp only [Decimal.position, Magnitude.scaledPosition, Int.zero_add, Int.reduceToNat]
  rw [scale, Nat.mul_left_comm 2 size, Nat.mul_assoc size]

private theorem eq_zero_of_units {magnitude : Magnitude} (nothing : magnitude.units = 0) :
    magnitude = .zero := by
  have rank := Magnitude.nearestRank_unitsOfRank magnitude.rank
  rw [show Magnitude.unitsOfRank magnitude.rank = 0 from nothing] at rank
  obtain ⟨_, _⟩ := magnitude
  cases rank
  rfl

/-- The integer that a number is stands at the magnitude of the number. -/
theorem isTextOf_writeInt {negative : Bool} {magnitude : Magnitude} {whole : Int}
    (is : (finite negative magnitude).toInt? = some whole) :
    IsTextOf (Numeral.writeInt whole) negative magnitude := by
  have counts := Option.some.inj (toInt?_eq_some_iff.mp is)
  have units : magnitude.units = whole.natAbs * Magnitude.unitsPerOne := by
    rw [← Int.natAbs_natCast Magnitude.unitsPerOne, ← Int.natAbs_mul, ← counts]
    cases negative <;> simp
  refine ⟨decide (whole < 0), ⟨whole.natAbs, 0⟩, writeInt_eq whole, by simp, ?_, ?_⟩
  · rw [position_eq_scaledPosition, ← units]
    exact magnitude.roundsTo_units
  · rcases Nat.eq_zero_or_pos magnitude.units with nothing | some
    · exact .inr (eq_zero_of_units nothing)
    · left
      have one := Int.natCast_nonneg Magnitude.unitsPerOne
      by_cases below : whole < 0
      · have product := Int.mul_nonpos_of_nonpos_of_nonneg (Int.le_of_lt below) one
        cases negative with
        | false => simp only [Bool.false_eq_true, ↓reduceIte] at counts; omega
        | true => exact decide_eq_true below
      · have product := Int.mul_nonneg (Int.not_lt.mp below) one
        cases negative with
        | false => exact decide_eq_false below
        | true => simp only [↓reduceIte] at counts; omega

end Integers

theorem isTextOf_text (negative : Bool) (magnitude : Magnitude) :
    IsTextOf (finite negative magnitude).text negative magnitude := by
  obtain ⟨least, rounds⟩ := magnitude.roundsTo_shortest .upward
  exact ⟨negative, magnitude.shortest .upward, rfl, least, rounds, .inl rfl⟩

theorem isTextOf_canonicalNumber (negative : Bool) (magnitude : Magnitude) :
    IsTextOf (canonicalNumber (.finite negative magnitude)) negative magnitude := by
  unfold canonicalNumber
  split
  case h_1 whole is =>
    split
    case isTrue => exact isTextOf_writeInt is
    case isFalse => exact isTextOf_text negative magnitude
  case h_2 => exact isTextOf_text negative magnitude

/-- A text is that of one number, or of both zeros. -/
theorem IsTextOf.unique {text : String} {negative other : Bool} {magnitude size : Magnitude}
    (left : IsTextOf text negative magnitude) (right : IsTextOf text other size) :
    magnitude = size ∧ (negative = other ∨ magnitude = .zero) := by
  obtain ⟨sign, decimal, rfl, least, rounds, signs⟩ := left
  obtain ⟨otherSign, otherDecimal, same, otherLeast, otherRounds, otherSigns⟩ := right
  obtain ⟨rfl, plain⟩ := signed_plain_inj (String.ofList_injective same)
  have position := congrArg Decimal.positionOf plain
  rw [Decimal.positionOf_plain least, Decimal.positionOf_plain otherLeast] at position
  cases Magnitude.eq_of_roundsTo rounds (position ▸ otherRounds)
  grind

/-- A number with the canonical text of a finite number is finite. -/
theorem isFinite_of_canonicalNumber_eq (same : canonicalNumber first = canonicalNumber second)
    (finite : second.isFinite = true) : first.isFinite = true := by
  cases second with
  | infinite negative => cases finite
  | nan => cases finite
  | finite negative magnitude =>
    obtain ⟨sign, decimal, text, -⟩ := isTextOf_canonicalNumber negative magnitude
    obtain ⟨digit, rest, plain, isDigit⟩ := decimal.exists_digit_of_plain
    rw [text, plain] at same
    cases first with
    | finite => rfl
    | infinite other =>
      have written := String.ofList_injective same
      cases other <;> cases sign <;> cases written <;> cases isDigit
    | nan other code =>
      have word : canonicalNumber (nan other code) = String.ofList ['N', 'a', 'N'] := rfl
      have written := String.ofList_injective (word.symm.trans same)
      cases sign <;> cases written
      cases isDigit

/-- Finite numbers are numerically equal if they count the same units. -/
theorem sameValue_iff_units? (finite : first.isFinite = true)
    (alsoFinite : second.isFinite = true) :
    first.sameValue second = true ↔ first.units? = second.units? := by
  obtain ⟨units, counts⟩ := isFinite_iff_units?.mp finite
  obtain ⟨others, alsoCounts⟩ := isFinite_iff_units?.mp alsoFinite
  constructor
  · intro same
    rcases eq_or_zero_of_sameValue same with rfl | ⟨left, right, rfl, rfl⟩
    · rfl
    · cases left <;> cases right <;> rfl
  · intro same
    rw [counts, alsoCounts] at same
    cases same
    simp only [sameValue, place?_of_units? counts, place?_of_units? alsoCounts, beq_self_eq_true]

/-- Finite numbers have one canonical text exactly if they are numerically equal. -/
theorem canonicalNumber_eq_iff (finite : second.isFinite = true) :
    canonicalNumber first = canonicalNumber second ↔ first.sameValue second = true := by
  refine ⟨fun same => ?_, canonicalNumber_eq_of_sameValue⟩
  have alsoFinite := isFinite_of_canonicalNumber_eq same finite
  cases first with
  | infinite negative => cases alsoFinite
  | nan => cases alsoFinite
  | finite negative magnitude =>
    cases second with
    | infinite negative => cases finite
    | nan => cases finite
    | finite other size =>
      have left := isTextOf_canonicalNumber negative magnitude
      obtain ⟨rfl, signs⟩ := left.unique (same ▸ isTextOf_canonicalNumber other size)
      rw [sameValue_iff_units? rfl rfl]
      rcases signs with rfl | rfl
      · rfl
      · cases negative <;> cases other <;> rfl

end Binary64

end Underwriting
