import Underwriting.Proofs.Text.Split
import Underwriting.Timestamp.Text

/-! # Timestamps are read back from their text

The reader accepts far more than the writer produces. On what the writer produces it has no choice:
every number is written with as many digits as its place holds, or is followed by a character that
is no digit, and a fraction of three, six or nine places says how far it has to be scaled.
-/

namespace Underwriting

namespace Timestamp

open Numeral (isDigit)

section Numbers

variable {width number : Nat} {rest : List Char}

/-- A number that was filled up with zeros consists of digits and reads as itself. -/
theorem padded_spec (width number : Nat) :
    (∀ character ∈ padded width number, isDigit character = true) ∧
      Numeral.value? (padded width number) = some number := by
  obtain ⟨areDigits, read⟩ := Numeral.digits_spec number
  refine ⟨fun character present => ?_, ?_⟩
  · rcases List.mem_append.mp present with zero | digit
    · rw [List.eq_of_mem_replicate zero]
      rfl
    · exact areDigits character digit
  · rw [padded, Numeral.value?_zeros_append, read]

theorem padded_ne_nil (width number : Nat) : padded width number ≠ [] := by
  have positive := Numeral.length_digits_pos number
  intro empty
  obtain ⟨_, digits⟩ := List.append_eq_nil_iff.mp empty
  rw [digits] at positive
  exact Nat.lt_irrefl 0 positive

theorem length_padded (fits : number < Nat.pow 10 (width + 1)) :
    (padded (width + 1) number).length = width + 1 := by
  have digits := Numeral.length_digits_le fits
  simp only [padded, List.length_append, List.length_replicate]
  omega

/-- Digits are read as far as they go, or as far as they may. -/
theorem number?_padded {limit : Nat} (within : (padded width number).length ≤ limit)
    (stops : (rest.take (limit - (padded width number).length)).takeWhile isDigit = []) :
    number? limit (padded width number ++ rest) = some (number, rest) := by
  obtain ⟨areDigits, read⟩ := padded_spec width number
  have digits : ((padded width number ++ rest).take limit).takeWhile isDigit =
      padded width number := by
    rw [List.take_append, List.take_of_length_le within,
      List.takeWhile_append_of_pos areDigits, stops, List.append_nil]
  simp only [number?, digits, List.isEmpty_eq_false_iff.mpr (padded_ne_nil width number), read,
    Option.map_some, List.drop_left, Bool.false_eq_true, ↓reduceIte]

theorem takeWhile_take_of_stop {mark : Char} (stop : isDigit mark = false) (count : Nat) :
    ((mark :: rest).take count).takeWhile isDigit = [] := by
  cases count with
  | zero => rfl
  | succ count => rw [List.take_succ_cons, List.takeWhile_cons_of_neg (by rw [stop]; decide)]

theorem skipBlanks_cons {mark : Char} (visible : isBlank mark = false) :
    skipBlanks (mark :: rest) = mark :: rest :=
  List.dropWhile_cons_of_neg (by rw [visible]; decide)

theorem skipBlanks_padded (width number : Nat) (rest : List Char) :
    skipBlanks (padded width number ++ rest) = padded width number ++ rest := by
  obtain ⟨areDigits, -⟩ := padded_spec width number
  cases shape : padded width number with
  | nil => exact absurd shape (padded_ne_nil width number)
  | cons first others =>
    have digit := areDigits first (shape ▸ List.mem_cons_self)
    exact skipBlanks_cons (isBlank_of_isDigit digit)

/-- A number of two places is read back, whatever follows it. -/
theorem twoDigits?_padded (fits : number < 100) (rest : List Char) :
    twoDigits? (padded 2 number ++ rest) = some (number, rest) := by
  have length : (padded 2 number).length = 2 := length_padded fits
  rw [twoDigits?, skipBlanks_padded]
  refine number?_padded (Nat.le_of_eq length) ?_
  rw [length]
  rfl

theorem separator?_cons {mark : Char} (visible : isBlank mark = false) (rest : List Char) :
    separator? mark (mark :: rest) = some rest := by
  simp only [separator?, skipBlanks_cons visible, ↓reduceIte]

end Numbers

/-- Four digits without a sign are a year. -/
theorem year?_padded {number : Nat} (fits : number < 10000) (rest : List Char) :
    year? (padded 4 number ++ '-' :: rest) = some ((number : Int), '-' :: rest) := by
  have length : (padded 4 number).length = 4 := length_padded fits
  have read : number? 4 (padded 4 number ++ '-' :: rest) = some (number, '-' :: rest) :=
    number?_padded (Nat.le_of_eq length) (takeWhile_take_of_stop rfl _)
  obtain ⟨areDigits, -⟩ := padded_spec 4 number
  unfold year?
  rw [skipBlanks_padded]
  cases shape : padded 4 number with
  | nil => exact absurd shape (padded_ne_nil 4 number)
  | cons first others =>
    have digit := areDigits first (shape ▸ List.mem_cons_self)
    rw [shape] at read
    split
    · rename_i same
      cases same
      cases digit
    · rename_i same
      cases same
      cases digit
    · simp only [read, Option.map_some]

/-- A year is read back where a dash follows it. -/
theorem year?_yearText (year : Int) (rest : List Char) :
    year? (yearText year ++ '-' :: rest) = some (year, '-' :: rest) := by
  have whole : wholeNumber? (padded 4 year.natAbs ++ '-' :: rest) =
      some (year.natAbs, '-' :: rest) :=
    number?_padded (by rw [List.length_append]; omega) (takeWhile_take_of_stop rfl _)
  unfold yearText
  split
  case isTrue plain =>
    have fits : year.toNat < 10000 := by omega
    rw [year?_padded fits, Int.toNat_of_nonneg plain.1]
  case isFalse signed =>
    by_cases negative : year < 0
    · rw [if_pos negative, List.cons_append, year?, skipBlanks_cons rfl]
      simp only [whole, Option.map_some, Option.some.injEq, Prod.mk.injEq, and_true]
      omega
    · rw [if_neg negative, List.cons_append, year?, skipBlanks_cons rfl]
      simp only [whole, Option.map_some, Option.some.injEq, Prod.mk.injEq, and_true]
      omega

/-- The places of a second are read back where the zone follows them. -/
theorem fraction?_fractionText {nanosecond : Nat} (bound : nanosecond < 1000000000) :
    fraction? (fractionText nanosecond ++ ['Z']) = some (nanosecond, ['Z']) := by
  have places {width number : Nat} (fits : number < 10 ^ (width + 1)) (atMostNine : width + 1 ≤ 9) :
      fraction? ('.' :: padded (width + 1) number ++ ['Z']) =
        some (number * 10 ^ (9 - (width + 1)), ['Z']) := by
    have length := length_padded fits
    have read : number? 9 (padded (width + 1) number ++ ['Z']) = some (number, ['Z']) :=
      number?_padded (by rw [length]; exact atMostNine) (takeWhile_take_of_stop rfl _)
    have zone : ['Z'].dropWhile isDigit = ['Z'] := rfl
    simp only [List.cons_append, fraction?, read, zone, List.length_append, length,
      Nat.add_sub_cancel, Nat.pow_eq]
  unfold fractionText
  split
  · rename_i none
    subst none
    rfl
  · split
    · have fits : nanosecond / 1000000 < 10 ^ (2 + 1) := by omega
      rw [places fits (by decide)]
      simp only [Option.some.injEq, Prod.mk.injEq, and_true]
      omega
    · split
      · have fits : nanosecond / 1000 < 10 ^ (5 + 1) := by omega
        rw [places fits (by decide)]
        simp only [Option.some.injEq, Prod.mk.injEq, and_true]
        omega
      · rw [places bound (by decide), Nat.sub_self, Nat.pow_zero, Nat.mul_one]

/-- An instant in universal time is its own local time. -/
theorem ofLocal?_zero (timestamp : Timestamp) :
    ofLocal? timestamp.year timestamp.month timestamp.day timestamp.hour timestamp.minute
      timestamp.second timestamp.nanosecond 0 = some timestamp := by
  obtain ⟨year, month, day, hour, minute, second, nanosecond, isDate, isTime⟩ := timestamp
  have times := isTime
  simp only [Calendar.isTime, Bool.and_eq_true, decide_eq_true_eq] at times
  obtain ⟨⟨⟨hours, minutes⟩, -⟩, -⟩ := times
  have started : ¬ ((hour * 60 + minute : Nat) - 0 : Int) < 0 := by omega
  have sameDay : ((hour * 60 + minute : Nat) - 0 : Int) < 1440 := by omega
  have minuteOfDay :
      (((hour * 60 + minute : Nat) - 0 : Int) % 1440).toNat = hour * 60 + minute := by
    omega
  have hourBack : (hour * 60 + minute) / 60 = hour := by omega
  have minuteBack : (hour * 60 + minute) % 60 = minute := by omega
  simp only [ofLocal?, isDate, isTime, started, sameDay, minuteOfDay, hourBack, minuteBack,
    and_self, ↓reduceIte, ↓reduceDIte]

/-- The text of a timestamp reads back as the timestamp. -/
theorem read?_text (timestamp : Timestamp) : read? timestamp.text = some timestamp := by
  have dates := timestamp.isDate
  have times := timestamp.isTime
  simp only [Calendar.isDate, Calendar.isTime, Bool.and_eq_true, decide_eq_true_eq] at dates times
  obtain ⟨⟨⟨-, months⟩, -⟩, daysInMonth⟩ := dates
  obtain ⟨⟨⟨hours, minutes⟩, seconds⟩, nanoseconds⟩ := times
  have day : timestamp.day < 100 := by
    refine Nat.lt_of_le_of_lt daysInMonth ?_
    unfold Calendar.daysInMonth
    split
    · split <;> decide
    · split <;> decide
  have dash (rest : List Char) : separator? '-' ('-' :: rest) = some rest :=
    separator?_cons (by decide) rest
  have colon (rest : List Char) : separator? ':' (':' :: rest) = some rest :=
    separator?_cons (by decide) rest
  have mark (rest : List Char) : dayMark? ('T' :: rest) = some rest := rfl
  have zone : skipBlanks ['Z'] = ['Z'] := rfl
  have offset : offset? ['Z'] = some (0, []) := rfl
  have month : timestamp.month < 100 := Nat.lt_of_le_of_lt months (by decide)
  have hour : timestamp.hour < 100 := Nat.lt_of_le_of_lt hours (by decide)
  have minute : timestamp.minute < 100 := Nat.lt_of_le_of_lt minutes (by decide)
  have second : timestamp.second < 100 := Nat.lt_of_le_of_lt seconds (by decide)
  simp only [read?, text, String.toList_ofList, List.append_assoc, List.cons_append, date?, time?,
    year?_yearText, dash, colon, mark, twoDigits?_padded month, twoDigits?_padded day,
    twoDigits?_padded hour, twoDigits?_padded minute, twoDigits?_padded second,
    fraction?_fractionText nanoseconds, zone, offset, Option.bind_eq_bind, Option.bind_some,
    ofLocal?_zero]
  rfl

/-- A timestamp is read back from its document. -/
theorem decode_encode (timestamp : Timestamp) :
    decode.value timestamp.encode = .ok timestamp := by
  simp only [Decoder.value, encode, Json.toSource, decode, Decoder.textOf, Decoder.text, read?_text]

end Timestamp

end Underwriting
