import Underwriting.Json.Literal
import Underwriting.Text.Hexadecimal
import Underwriting.Text.Numeral

/-!
# JSON tokens

A JSON text as a list of tokens. Where the text is no longer JSON the list ends with a stray token.
A string whose escapes leave half a surrogate pair, and a number out of range, are tokens without
a value: they can be passed over but not read.
-/

namespace Underwriting

/-- A value that is written as one token. -/
inductive JsonScalar
  | null
  | bool (value : Bool)
  | number (value? : Option JsonNumber)
  | text (value? : Option String)
deriving DecidableEq

/-- A token of a JSON text. -/
inductive JsonToken
  | openArray
  | closeArray
  | openObject
  | closeObject
  | comma
  | colon
  | scalar (value : JsonScalar)
  | stray
deriving DecidableEq

namespace JsonToken

/-- A piece of a string: a character as it stands, or a UTF-16 unit given by an escape. -/
inductive StringPiece
  | plain (character : Char)
  | unit (value : Nat)
deriving DecidableEq

/-- The value of four hexadecimal digits. -/
def hexUnit? (first second third fourth : Char) : Option Nat :=
  match Hexadecimal.value? first, Hexadecimal.value? second, Hexadecimal.value? third,
      Hexadecimal.value? fourth with
  | some first, some second, some third, some fourth =>
    some (((first * 16 + second) * 16 + third) * 16 + fourth)
  | _, _, _, _ => none

/-- The character that a one-letter escape stands for. -/
def escape? : Char → Option Char
  | '"' => some '"'
  | '\\' => some '\\'
  | '/' => some '/'
  | 'b' => some '\x08'
  | 'f' => some '\x0c'
  | 'n' => some '\n'
  | 'r' => some '\r'
  | 't' => some '\t'
  | _ => none

/-- The pieces of a string up to its closing quote, in reverse on top of `before`, and the rest of
the text; nothing if the string does not end or has an unknown escape or a control character. -/
def scanString (before : List StringPiece) : List Char → Option (List StringPiece × List Char)
  | [] => none
  | '"' :: rest => some (before, rest)
  | '\\' :: 'u' :: first :: second :: third :: fourth :: rest =>
    match hexUnit? first second third fourth with
    | some unit => scanString (.unit unit :: before) rest
    | none => none
  | '\\' :: letter :: rest =>
    match escape? letter with
    | some character => scanString (.plain character :: before) rest
    | none => none
  | character :: rest =>
    if character = '\\' ∨ character.toNat < 0x20 then none
    else scanString (.plain character :: before) rest

/-- The first half of a surrogate pair. -/
def isHighSurrogate (unit : Nat) : Bool := 0xD800 ≤ unit && unit ≤ 0xDBFF

/-- The second half of a surrogate pair. -/
def isLowSurrogate (unit : Nat) : Bool := 0xDC00 ≤ unit && unit ≤ 0xDFFF

/-- The characters of reversed pieces, in front of `after`; nothing if half a surrogate pair stands
alone. -/
def join? (after : List Char) : List StringPiece → Option (List Char)
  | [] => some after
  | .plain character :: rest => join? (character :: after) rest
  | .unit low :: .unit high :: rest =>
    if isLowSurrogate low then
      if isHighSurrogate high then
        join? (Char.ofNat (0x10000 + (high - 0xD800) * 0x400 + (low - 0xDC00)) :: after) rest
      else none
    else if isHighSurrogate low then none
    else join? (Char.ofNat low :: after) (.unit high :: rest)
  | .unit unit :: rest =>
    if isLowSurrogate unit || isHighSurrogate unit then none
    else join? (Char.ofNat unit :: after) rest

/-- The values of the digits at the front of a text. -/
def leadingDigits (text : List Char) : List Nat :=
  (text.takeWhile Numeral.isDigit).map (·.toNat - 48)

/-- A text without the digits at its front. -/
def afterDigits (text : List Char) : List Char := text.dropWhile Numeral.isDigit

/-- The fraction of a number, its digits and the rest; nothing if a point has no digit after it. -/
def scanFraction? : List Char → Option (List Nat × List Char)
  | '.' :: rest =>
    if (leadingDigits rest).isEmpty then none
    else some (leadingDigits rest, afterDigits rest)
  | rest => some ([], rest)

/-- An exponent's sign and the text behind it. -/
def scanSign : List Char → Bool × List Char
  | '+' :: rest => (false, rest)
  | '-' :: rest => (true, rest)
  | rest => (false, rest)

/-- The exponent of a number and the rest; nothing if an exponent mark has no digit after it. -/
def scanExponent? : List Char → Option (Option Int × List Char)
  | [] => some (none, [])
  | mark :: rest =>
    if mark = 'e' ∨ mark = 'E' then
      let (negative, body) := scanSign rest
      let digits := leadingDigits body
      if digits.isEmpty then none
      else
        let size : Nat := digits.foldl (fun value digit => 10 * value + digit) 0
        some (some (if negative then -size else size), afterDigits body)
    else some (none, mark :: rest)

/-- A number literal without its sign, and the rest. A leading zero stands alone. -/
def scanNumber? (negative : Bool) (text : List Char) : Option (NumberLiteral × List Char) :=
  let whole := leadingDigits text
  if whole.isEmpty || (whole.head? == some 0 && 1 < whole.length) then none
  else match scanFraction? (afterDigits text) with
    | none => none
    | some (fraction, rest) => match scanExponent? rest with
      | none => none
      | some (exponent?, rest) => some (⟨negative, whole, fraction, exponent?⟩, rest)

/-- White space between tokens. -/
def isSpace (character : Char) : Bool :=
  character == ' ' || character == '\n' || character == '\t' || character == '\r'

/-- A number token, or a stray token if the literal is malformed. -/
def numberToken (negative : Bool) (text : List Char) : JsonToken × List Char :=
  match scanNumber? negative text with
  | some (literal, rest) => (.scalar (.number literal.value?), rest)
  | none => (.stray, [])

/-- The token that starts with a character that is no white space, and the rest of the text. A
stray token leaves no rest. -/
def next (first : Char) (rest : List Char) : JsonToken × List Char :=
  match first, rest with
  | '[', _ => (.openArray, rest)
  | ']', _ => (.closeArray, rest)
  | '\x7b', _ => (.openObject, rest)
  | '\x7d', _ => (.closeObject, rest)
  | ',', _ => (.comma, rest)
  | ':', _ => (.colon, rest)
  | 'n', 'u' :: 'l' :: 'l' :: rest => (.scalar .null, rest)
  | 't', 'r' :: 'u' :: 'e' :: rest => (.scalar (.bool true), rest)
  | 'f', 'a' :: 'l' :: 's' :: 'e' :: rest => (.scalar (.bool false), rest)
  | '"', _ =>
    match scanString [] rest with
    | some (pieces, rest) => (.scalar (.text ((join? [] pieces).map String.ofList)), rest)
    | none => (.stray, [])
  | '-', _ => numberToken true rest
  | _, _ => if Numeral.isDigit first then numberToken false (first :: rest) else (.stray, [])

theorem scanString_length {before pieces : List StringPiece} {text rest : List Char}
    (scanned : scanString before text = some (pieces, rest)) : rest.length < text.length := by
  fun_induction scanString before text with
  | case1 | case4 | case6 | case7 => simp at scanned
  | case2 => grind
  | case3 before first second third fourth rest unit unitRead ih =>
    have shorter := ih scanned
    simp only [List.length_cons]
    omega
  | case5 | case8 => grind

theorem afterDigits_length (text : List Char) : (afterDigits text).length ≤ text.length :=
  (List.dropWhile_sublist _).length_le

theorem scanFraction?_length {digits : List Nat} {text rest : List Char}
    (scanned : scanFraction? text = some (digits, rest)) : rest.length ≤ text.length := by
  unfold scanFraction? at scanned
  split at scanned
  · next tail =>
    have := afterDigits_length tail
    grind
  · grind

theorem scanSign_length (text : List Char) : (scanSign text).2.length ≤ text.length := by
  unfold scanSign
  split <;> grind

theorem scanExponent?_length {exponent? : Option Int} {text rest : List Char}
    (scanned : scanExponent? text = some (exponent?, rest)) : rest.length ≤ text.length := by
  unfold scanExponent? at scanned
  split at scanned
  · grind
  · next mark tail =>
    have signLength := scanSign_length tail
    have digitsLength := afterDigits_length (scanSign tail).2
    grind

theorem scanNumber?_length {negative : Bool} {literal : NumberLiteral} {text rest : List Char}
    (scanned : scanNumber? negative text = some (literal, rest)) :
    rest.length < text.length := by
  unfold scanNumber? at scanned
  simp only at scanned
  split at scanned
  · simp at scanned
  · next guard =>
    have digitsLength : (afterDigits text).length < text.length := by
      have nonempty : ¬ (leadingDigits text).isEmpty := by simp_all
      have total := congrArg List.length
        (List.takeWhile_append_dropWhile (p := Numeral.isDigit) (l := text))
      have positive : 0 < (text.takeWhile Numeral.isDigit).length := by
        rw [List.length_pos_iff]
        intro empty
        simp [leadingDigits, empty] at nonempty
      simp only [List.length_append] at total
      unfold afterDigits
      omega
    split at scanned
    · simp at scanned
    · next fractionScanned =>
      have fractionLength := scanFraction?_length fractionScanned
      split at scanned
      · simp at scanned
      · next exponentScanned =>
        have exponentLength := scanExponent?_length exponentScanned
        grind

theorem numberToken_length (negative : Bool) {text : List Char} (nonempty : text ≠ []) :
    (numberToken negative text).2.length < text.length := by
  unfold numberToken
  split
  · next scanned => exact scanNumber?_length scanned
  · simpa [List.length_pos_iff] using nonempty

theorem next_length (first : Char) (rest : List Char) :
    (next first rest).2.length < rest.length + 1 := by
  unfold next
  split
  case h_10 =>
    split
    · next scanned => exact Nat.lt_succ_of_lt (scanString_length scanned)
    · simp
  case h_11 =>
    by_cases empty : rest = []
    · subst empty
      simp [numberToken, scanNumber?, leadingDigits]
    · exact Nat.lt_succ_of_lt (numberToken_length true empty)
  case h_12 =>
    split
    · exact numberToken_length false (List.cons_ne_nil first rest)
    · simp
  all_goals simp <;> omega

/-- The tokens of a text, in reverse on top of `before`. -/
def scanOnto (before : List JsonToken) : List Char → List JsonToken
  | [] => before
  | first :: rest =>
    if isSpace first then scanOnto before rest
    else scanOnto ((next first rest).1 :: before) (next first rest).2
termination_by text => text.length
decreasing_by
  · simp
  · exact next_length first rest

/-- The tokens of a text. -/
def scan (text : List Char) : List JsonToken := (scanOnto [] text).reverse

end JsonToken

end Underwriting
