/-!
# Slices of text

Text cut at places that are counted in bytes. A cut falls between two characters or does not exist.
-/

namespace Underwriting

/-- How many bytes a text has. -/
def byteSize : List Char → Nat
  | [] => 0
  | character :: rest => character.utf8Size + byteSize rest

/-- The text in front of a cut behind so many bytes and the text behind it. -/
def cutAt? : Nat → List Char → Option (List Char × List Char)
  | 0, text => some ([], text)
  | _ + 1, [] => none
  | size + 1, character :: rest =>
    if character.utf8Size ≤ size + 1 then
      (cutAt? (size + 1 - character.utf8Size) rest).map fun (before, behind) =>
        (character :: before, behind)
    else none

/-- The text behind a cut. -/
def textFrom? (first : Nat) (text : List Char) : Option (List Char) :=
  (cutAt? first text).map fun (_, behind) => behind

/-- The text between two cuts. -/
def textBetween? (first last : Nat) (text : List Char) : Option (List Char) :=
  (textFrom? first text).bind fun behind =>
    (cutAt? (last - first) behind).map fun (between, _) => between

end Underwriting
