/-!
# Tokens

The words of HTTP: the name of a method, and the parts of a media type.
-/

namespace Underwriting

/-- The characters of a token besides letters and digits. -/
def tokenMarks : List Char :=
  ['!', '#', '$', '%', '&', '\'', '*', '+', '-', '.', '^', '_', '\x60', '|', '~']

/-- A character of a token. -/
def isTokenCharacter (character : Char) : Bool :=
  character.isAlphanum || tokenMarks.contains character

/-- A token: one or more of its characters. -/
def isToken (text : List Char) : Bool := !text.isEmpty && text.all isTokenCharacter

end Underwriting
