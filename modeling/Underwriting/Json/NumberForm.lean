import Underwriting.Json.Decoder

/-!
# How doubles appear in a document

Documents carry doubles as JSON numbers. Where a document may also carry the infinities and what is
not a number, every double is written as its text, and those three are read from theirs. All
non-numbers have one text.
-/

namespace Underwriting

/-- How doubles are written into documents and read back. -/
structure NumberForm where
  write : Binary64 → Json
  read : Decoder Binary64

namespace NumberForm

/-- Doubles as JSON numbers; those that are not finite are written as null. -/
def plain : NumberForm := ⟨Json.ofBinary64, Decoder.number⟩

/-- The words for the doubles that are not finite. -/
def words : List (String × Binary64) :=
  [("NaN", .notANumber), ("inf", .infinite false), ("-inf", .infinite true)]

/-- Doubles as their texts; read from a number or from one of the three words. -/
def spelled : NumberForm where
  write number := .string number.text
  read
    | .scalar (.text (some word)) => Decoder.byName words (.scalar (.text (some word)))
    | other => Decoder.number other

end NumberForm

end Underwriting
