import Underwriting.Json.Decoder
import Underwriting.Text.Blank
import Underwriting.Timestamp.Basic

/-!
# The text of a timestamp

Timestamps are written in RFC 3339 form with the letter Z and with three, six or nine places of a
second, the fewest that are exact. They are read more freely: white space may stand before every
number and separator, numbers may leave out leading zeros, a year outside four digits has a sign,
and the time may be local with an offset from universal time.
-/

namespace Underwriting

namespace Timestamp

/-- A number of exactly so many digits, filled up with zeros. -/
def padded (width number : Nat) : List Char :=
  let digits := Numeral.digits number
  List.replicate (width - digits.length) '0' ++ digits

/-- The year with four digits; with a sign if that does not hold it. -/
def yearText (year : Int) : List Char :=
  if 0 ≤ year ∧ year ≤ 9999 then padded 4 year.toNat
  else (if year < 0 then '-' else '+') :: padded 4 year.natAbs

/-- The places of a second. -/
def fractionText (nanosecond : Nat) : List Char :=
  if nanosecond = 0 then []
  else if nanosecond % 1000000 = 0 then '.' :: padded 3 (nanosecond / 1000000)
  else if nanosecond % 1000 = 0 then '.' :: padded 6 (nanosecond / 1000)
  else '.' :: padded 9 nanosecond

/-- The text of a timestamp. -/
def text (timestamp : Timestamp) : String :=
  String.ofList <|
    yearText timestamp.year ++ '-' :: padded 2 timestamp.month ++ '-' :: padded 2 timestamp.day ++
      'T' :: padded 2 timestamp.hour ++ ':' :: padded 2 timestamp.minute ++
      ':' :: padded 2 timestamp.second ++ fractionText timestamp.nanosecond ++ ['Z']

/-- The text behind white space. -/
def skipBlanks (text : List Char) : List Char := text.dropWhile isBlank

/-- A number of one up to `width` digits at the front of a text. -/
def number? (width : Nat) (text : List Char) : Option (Nat × List Char) :=
  let digits := (text.take width).takeWhile Numeral.isDigit
  if digits.isEmpty then none
  else (Numeral.value? digits).map fun value => (value, text.drop digits.length)

/-- Any number of digits at the front of a text. -/
def wholeNumber? (text : List Char) : Option (Nat × List Char) :=
  number? text.length text

/-- A year: up to four digits, or a sign and any number of digits. -/
def year? (text : List Char) : Option (Int × List Char) :=
  match skipBlanks text with
  | '-' :: rest => (wholeNumber? rest).map fun (value, rest) => (-value, rest)
  | '+' :: rest => (wholeNumber? rest).map fun (value, rest) => (value, rest)
  | rest => (number? 4 rest).map fun (value, rest) => (value, rest)

/-- White space and a separator. -/
def separator? (mark : Char) (text : List Char) : Option (List Char) :=
  match skipBlanks text with
  | first :: rest => if first = mark then some rest else none
  | [] => none

/-- White space and a number of one or two digits. -/
def twoDigits? (text : List Char) : Option (Nat × List Char) := number? 2 (skipBlanks text)

/-- A date. -/
def date? (text : List Char) : Option ((Int × Nat × Nat) × List Char) := do
  let (year, rest) ← year? text
  let rest ← separator? '-' rest
  let (month, rest) ← twoDigits? rest
  let rest ← separator? '-' rest
  let (day, rest) ← twoDigits? rest
  some ((year, month, day), rest)

/-- The nanoseconds of a fraction of a second; places behind the ninth are dropped. -/
def fraction? : List Char → Option (Nat × List Char)
  | '.' :: rest =>
    match number? 9 rest with
    | some (value, after) =>
      let places := rest.length - after.length
      some (value * Nat.pow 10 (9 - places), after.dropWhile Numeral.isDigit)
    | none => none
  | rest => some (0, rest)

/-- A time of day. -/
def time? (text : List Char) : Option ((Nat × Nat × Nat × Nat) × List Char) := do
  let (hour, rest) ← twoDigits? text
  let rest ← separator? ':' rest
  let (minute, rest) ← twoDigits? rest
  let rest ← separator? ':' rest
  let (second, rest) ← twoDigits? rest
  let (nanosecond, rest) ← fraction? rest
  some ((hour, minute, second, nanosecond), skipBlanks rest)

/-- The mark between a date and a time. -/
def dayMark? : List Char → Option (List Char)
  | first :: rest => if first = 'T' ∨ first = 't' ∨ first = ' ' then some rest else none
  | [] => none

/-- A sign in front of an offset: whether it is negative. -/
def offsetSign? : Char → Option Bool
  | '+' => some false
  | '-' => some true
  | '\u2212' => some true
  | _ => none

/-- Two digits, neither more nor fewer being needed. -/
def pair? : List Char → Option (Nat × List Char)
  | first :: second :: rest =>
    match Numeral.digitValue? first, Numeral.digitValue? second with
    | some tens, some ones => some (10 * tens + ones, rest)
    | _, _ => none
  | _ => none

/-- The minutes by which clocks are ahead of universal time, from a sign, hours and minutes with
colons or white space between them. -/
def signedOffset? (text : List Char) : Option (Int × List Char) :=
  match text with
  | [] => none
  | sign :: rest => do
    let negative ← offsetSign? sign
    let (hours, rest) ← pair? rest
    let (minutes, rest) ← pair?
      (rest.dropWhile fun character => character == ':' || isBlank character)
    if minutes ≤ 59 ∧ hours ≤ 23 then
      let size : Nat := 60 * hours + minutes
      some (if negative then -size else size, rest)
    else none

/-- An offset from universal time: the letters UTC or Z, or a signed offset. -/
def offset? : List Char → Option (Int × List Char)
  | first :: second :: third :: rest =>
    if first.toUpper = 'U' ∧ second.toUpper = 'T' ∧ third.toUpper = 'C' then some (0, rest)
    else if first = 'Z' ∨ first = 'z' then some (0, second :: third :: rest)
    else signedOffset? (first :: second :: third :: rest)
  | first :: rest => if first = 'Z' ∨ first = 'z' then some (0, rest) else none
  | [] => none

/-- Reads a timestamp. -/
def read? (text : String) : Option Timestamp := do
  let ((year, month, day), rest) ← date? text.toList
  let rest ← dayMark? rest
  let ((hour, minute, second, nanosecond), rest) ← time? rest
  let (ahead, rest) ← offset? rest
  if (skipBlanks rest).isEmpty then
    ofLocal? year month day hour minute second nanosecond ahead
  else none

/-- The timestamp as a JSON value. -/
def encode (timestamp : Timestamp) : Json := .string timestamp.text

/-- Reads a timestamp from a JSON value. -/
def decode : Decoder Timestamp := .textOf read?

end Timestamp

end Underwriting
