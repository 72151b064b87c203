import Underwriting.Pattern.Basic
import Underwriting.Text.Hexadecimal

/-!
# Escapes in patterns

What a backslash and the characters behind it stand for. Every ASCII character that is neither a
letter nor a digit nor an angle bracket may be escaped to stand for itself.
-/

namespace Underwriting

/-- What an escape stands for. -/
inductive Escaped
  | literal (value : PatternLiteral)
  | shorthand (negated : Bool)
  | anchor
  | boundary

namespace Escaped

/-- The escape as a pattern. -/
def toPattern : Escaped → Pattern
  | .literal value => .literal value
  | .shorthand negated => .shorthand negated
  | .anchor => .anchor
  | .boundary => .boundary

/-- The escape as an item of a class, in which nothing but characters can be found. -/
def toItem? : Escaped → Option ClassSet
  | .literal value => some (.literal value)
  | .shorthand negated => some (.shorthand negated)
  | .anchor | .boundary => none

/-- A character that stands for itself behind a backslash. -/
def isPlain (character : Char) : Bool :=
  character.toNat < 128 && !character.isAlphanum && character ≠ '<' && character ≠ '>'

/-- The letters that stand for control characters. -/
def controls : List (Char × Char) :=
  [('a', '\x07'), ('f', '\x0C'), ('t', '\t'), ('n', '\n'), ('r', '\r'), ('v', '\x0B')]

/-- A number of so many hexadecimal digits, behind the value of those before. -/
def readDigits (ignoreBlanks : Bool) (value : Nat) : Nat → List Char → Option (Nat × List Char)
  | 0, text => some (value, text)
  | _ + 1, [] => none
  | count + 1, character :: rest => match Hexadecimal.value? character with
    | some digit => readDigits ignoreBlanks (16 * value + digit) count (passOver ignoreBlanks rest)
    | none => none

/-- A character by its code point in so many hexadecimal digits. -/
def readCodePoint (ignoreBlanks isByte : Bool) (count : Nat) (text : List Char) :
    Option (Escaped × List Char) :=
  match readDigits ignoreBlanks 0 count (passOver ignoreBlanks text) with
  | some (value, rest) =>
    if value.isValidChar then some (.literal ⟨Char.ofNat value, isByte⟩, rest) else none
  | none => none

/-- Reads what stands behind a backslash, and gives the text that follows. -/
def read (ignoreBlanks : Bool) : List Char → Option (Escaped × List Char)
  | [] => none
  | character :: rest =>
    if character = 'x' then readCodePoint ignoreBlanks true 2 rest
    else if character = 'u' then readCodePoint ignoreBlanks false 4 rest
    else if character = 'U' then readCodePoint ignoreBlanks false 8 rest
    else if ['d', 's', 'w'].contains character then some (.shorthand false, rest)
    else if ['D', 'S', 'W'].contains character then some (.shorthand true, rest)
    else if ['A', 'z'].contains character then some (.anchor, rest)
    else if ['b', 'B', '<', '>'].contains character then some (.boundary, rest)
    else if isPlain character then some (.literal ⟨character, false⟩, rest)
    else (controls.lookup character).map fun control => (.literal ⟨control, false⟩, rest)

end Escaped

end Underwriting
