import Underwriting.Text.Blank
import Underwriting.Text.Numeral
import Underwriting.Text.Split

/-!
# Field paths

A path names a field of an application: segments divided by points, each a name of letters, digits
and underscores and possibly an index in brackets. White space around the path is not part of it.
-/

namespace Underwriting

/-- One segment of a path. -/
structure PathSegment where
  name : String
  index? : Option UInt64
deriving DecidableEq

/-- A path: its segments and its text without surrounding white space. -/
structure FieldPath where
  text : String
  segments : List PathSegment
deriving DecidableEq

/-- What is wrong with the text of a path. -/
inductive PathDefect
  | empty
  | unterminatedIndex (segment : String)
  | indexNotInteger (index : String)
  | emptySegment
  | unsupportedCharacters (name : String)
deriving DecidableEq

/-- Why a path gives no value. -/
inductive FieldError
  | notFound (path : String)
  | notASequence (path segment : String)
  | invalid (path : String) (defect : PathDefect)
deriving DecidableEq

namespace PathDefect

/-- The defect in words. -/
def message : PathDefect → String
  | .empty => "path is empty"
  | .unterminatedIndex segment => "unterminated index in '" ++ segment ++ "'"
  | .indexNotInteger index => "index '" ++ index ++ "' is not an integer"
  | .emptySegment => "empty segment"
  | .unsupportedCharacters name => "segment '" ++ name ++ "' contains unsupported characters"

end PathDefect

namespace FieldError

/-- The error in words. -/
def message : FieldError → String
  | .notFound path => "field '" ++ path ++ "' not found"
  | .notASequence path segment =>
    "field '" ++ path ++ "' indexes '" ++ segment ++ "', which is not a sequence"
  | .invalid path defect => "field path '" ++ path ++ "' is invalid: " ++ defect.message

/-- The category of the error. -/
def kind : FieldError → String
  | .notFound _ => "field_not_found"
  | .notASequence _ _ => "not_a_sequence"
  | .invalid _ _ => "invalid_path"

end FieldError

namespace PathSegment

/-- The largest index. -/
def maxIndex : Nat := UInt64.size - 1

/-- A character of a segment's name. -/
def isNameCharacter (character : Char) : Bool := character.isAlphanum || character == '_'

/-- A name with an index that has been read. -/
def named (name : List Char) (index? : Option UInt64) : Except PathDefect PathSegment :=
  if name.isEmpty then .error .emptySegment
  else if name.all isNameCharacter then .ok ⟨String.ofList name, index?⟩
  else .error (.unsupportedCharacters (String.ofList name))

/-- The segment of a text. The first bracket opens the index, which the last character closes; a
defect of the index is found before one of the name. -/
def parse (text : List Char) : Except PathDefect PathSegment :=
  let name := text.takeWhile (· ≠ '[')
  match text.dropWhile (· ≠ '[') with
  | [] => named name none
  | _ :: inner =>
    if inner.getLast? = some ']' then
      match Numeral.read? maxIndex inner.dropLast with
      | some index => named name (some (UInt64.ofNat index))
      | none => .error (.indexNotInteger (String.ofList inner.dropLast))
    else .error (.unterminatedIndex (String.ofList text))

/-- The segment as it is written, its index in decimal. -/
def render (segment : PathSegment) : List Char :=
  match segment.index? with
  | some index => segment.name.toList ++ '[' :: Numeral.digits index.toNat ++ [']']
  | none => segment.name.toList

end PathSegment

namespace FieldPath

/-- The segments of the pieces of a path, or the first defect. -/
def parseSegments : List (List Char) → Except PathDefect (List PathSegment)
  | [] => .ok []
  | piece :: rest => match PathSegment.parse piece with
    | .error defect => .error defect
    | .ok segment => (parseSegments rest).map (segment :: ·)

/-- The path of a text. -/
def parse (raw : String) : Except FieldError FieldPath :=
  let body := trimBlanks raw.toList
  if body.isEmpty then .error (.invalid raw .empty)
  else match parseSegments (splitOn '.' body) with
    | .error defect => .error (.invalid (String.ofList body) defect)
    | .ok segments => .ok ⟨String.ofList body, segments⟩

/-- A path keeps its text without the white space around it. -/
theorem text_of_parse {raw : String} {path : FieldPath} (parsed : parse raw = .ok path) :
    path.text = trimmed raw := by
  simp only [parse] at parsed
  split at parsed
  · cases parsed
  · split at parsed
    · cases parsed
    · cases parsed
      rfl

/-- Segments as they are written, divided by points. -/
def renderSegments (segments : List PathSegment) : List Char :=
  List.intercalate ['.'] (segments.map PathSegment.render)

end FieldPath

end Underwriting
