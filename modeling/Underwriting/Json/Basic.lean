import Underwriting.Number.Shortest
import Underwriting.Text.Hexadecimal

/-!
# JSON values

The values that documents are made of. Integers and doubles are kept apart, because a document may
tell them apart. An object that was read has its members in ascending order of their names, with
no name twice; `Json.ofMembers` brings written members into that form.
-/

namespace Underwriting

/-- A JSON value. -/
inductive Json
  | null
  | bool (value : Bool)
  | integer (value : Int)
  | float (value : Binary64)
  | string (value : String)
  | array (items : List Json)
  | object (members : List (String × Json))

namespace Json

/-- Adds a member in its place; a member of the same name gives way to it. -/
def insertMember (name : String) (value : Json) : List (String × Json) → List (String × Json)
  | [] => [(name, value)]
  | (other, held) :: rest =>
    if name < other then (name, value) :: (other, held) :: rest
    else if name = other then (name, value) :: rest
    else (other, held) :: insertMember name value rest

/-- Members in ascending order of their names; of members with one name the last is kept. -/
def sortMembers (members : List (String × Json)) : List (String × Json) :=
  members.foldl (fun sorted (name, value) => insertMember name value sorted) []

/-- The object with these members, in whatever order they were written. -/
def ofMembers (members : List (String × Json)) : Json := .object (sortMembers members)

/-- The member of a name in an object. -/
def member? (name : String) : Json → Option Json
  | .object members => members.lookup name
  | _ => none

/-- A list holding a member only if its value is there. -/
def optionalMember (name : String) (value? : Option Json) : List (String × Json) :=
  match value? with
  | some value => [(name, value)]
  | none => []

/-- A double as a value of its own; JSON has no infinities and no non-number, and writes null. -/
def ofBinary64 (number : Binary64) : Json := if number.isFinite then .float number else .null

/-- A character inside quotes: the quote, the backslash and the control characters are escaped. -/
def escaped (character : Char) : List Char :=
  match character with
  | '"' => ['\\', '"']
  | '\\' => ['\\', '\\']
  | '\n' => ['\\', 'n']
  | '\r' => ['\\', 'r']
  | '\t' => ['\\', 't']
  | '\x08' => ['\\', 'b']
  | '\x0c' => ['\\', 'f']
  | other =>
    if other.toNat < 0x20 then
      ['\\', 'u', '0', '0', Hexadecimal.digit (other.toNat / 16),
        Hexadecimal.digit (other.toNat % 16)]
    else [other]

/-- A text in quotes. -/
def quoted (text : String) : String :=
  String.ofList ('"' :: text.toList.flatMap escaped ++ ['"'])

mutual

/-- The text of a value without any white space. -/
def compact : Json → String
  | .null => "null"
  | .bool value => if value then "true" else "false"
  | .integer value => Numeral.writeInt value
  | .float value => value.jsonText?.getD "null"
  | .string value => quoted value
  | .array items => "[" ++ String.intercalate "," (compactItems items) ++ "]"
  | .object members =>
    "\x7b" ++ String.intercalate "," (compactMembers members) ++ "\x7d"

/-- The texts of the items of an array. -/
def compactItems : List Json → List String
  | [] => []
  | item :: rest => compact item :: compactItems rest

/-- The texts of the members of an object. -/
def compactMembers : List (String × Json) → List String
  | [] => []
  | (name, value) :: rest => (quoted name ++ ":" ++ compact value) :: compactMembers rest

end

mutual

/-- The text of a value with one item or member a line, indented by two spaces a level. -/
def indented (level : Nat) : Json → String
  | .array items =>
    if items.isEmpty then "[]"
    else "[\n" ++ String.intercalate ",\n" (indentedItems (level + 1) items) ++ "\n" ++
      String.ofList (List.replicate (2 * level) ' ') ++ "]"
  | .object members =>
    if members.isEmpty then "\x7b\x7d"
    else "\x7b\n" ++ String.intercalate ",\n" (indentedMembers (level + 1) members) ++ "\n" ++
      String.ofList (List.replicate (2 * level) ' ') ++ "\x7d"
  | other => other.compact

/-- The lines of the items of an array. -/
def indentedItems (level : Nat) : List Json → List String
  | [] => []
  | item :: rest =>
    (String.ofList (List.replicate (2 * level) ' ') ++ indented level item) ::
      indentedItems level rest

/-- The lines of the members of an object. -/
def indentedMembers (level : Nat) : List (String × Json) → List String
  | [] => []
  | (name, value) :: rest =>
    (String.ofList (List.replicate (2 * level) ' ') ++ quoted name ++ ": " ++
      indented level value) :: indentedMembers level rest

end

end Json

end Underwriting
