import Underwriting.Pattern.Escape

/-!
# Classes in patterns

The characters between brackets. A class may have classes inside it, and two halves of a class may
be combined by a doubled sign. Directly behind the opening bracket hyphens stand for themselves, and
so does a closing bracket that comes first.
-/

namespace Underwriting

/-- The names of classes. -/
def classNames : List String :=
  ["alnum", "alpha", "ascii", "blank", "cntrl", "digit", "graph", "lower", "print", "punct",
    "space", "upper", "word", "xdigit"]

/-- A class that is being read: whether nothing but hyphens was read, what stands in front of the
last doubled sign, and the items behind it in reverse. -/
structure OpenClass where
  negated : Bool
  isFresh : Bool
  left? : Option ClassSet
  items : List ClassSet

namespace OpenClass

/-- The items behind the last doubled sign, as one. -/
def tail (opened : OpenClass) : ClassSet :=
  match opened.items.reverse with
  | [] => .empty
  | [item] => item
  | items => .union items

/-- What was read so far. -/
def content (opened : OpenClass) : ClassSet :=
  match opened.left? with
  | none => opened.tail
  | some left => .combination left opened.tail

/-- One item more. -/
def push (opened : OpenClass) (item : ClassSet) : OpenClass :=
  { opened with isFresh := false, items := item :: opened.items }

/-- One character more. -/
def pushCharacter (opened : OpenClass) (character : Char) : OpenClass :=
  opened.push (.literal ⟨character, false⟩)

/-- A doubled sign behind what was read. -/
def combine (opened : OpenClass) : OpenClass :=
  { opened with isFresh := false, left? := some opened.content, items := [] }

/-- The class behind an opening bracket, and the text that follows. -/
def start (ignoreBlanks : Bool) (text : List Char) : OpenClass × List Char :=
  match passOver ignoreBlanks text with
  | '^' :: rest => (⟨true, true, none, []⟩, rest)
  | rest => (⟨false, true, none, []⟩, rest)

end OpenClass

namespace ClassSet

/-- A class by its name, behind an opening bracket. -/
def readNamed : List Char → Option (ClassSet × List Char)
  | ':' :: text =>
    let negated := text.head? == some '^'
    let text := if negated then text.drop 1 else text
    match text.dropWhile (· ≠ ':') with
    | ':' :: ']' :: rest =>
      if classNames.contains (String.ofList (text.takeWhile (· ≠ ':'))) then
        some (.named negated, rest)
      else none
    | _ => none
  | _ => none

/-- A character or an escape. -/
def readItem (ignoreBlanks : Bool) : List Char → Option (Escaped × List Char)
  | [] => none
  | '\\' :: rest => Escaped.read ignoreBlanks rest
  | character :: rest => some (.literal ⟨character, false⟩, rest)

/-- The character that is taken for the next one. Where blanks are ignored, the sign of a comment is
passed over with them, but not the comment. -/
def peek (ignoreBlanks : Bool) (text : List Char) : Option Char :=
  if ignoreBlanks then
    match text.dropWhile isBlank with
    | '#' :: rest => (rest.dropWhile isBlank).head?
    | rest => rest.head?
  else text.head?

/-- The range from one character to another, not downward. -/
def range? : Escaped → Escaped → Option ClassSet
  | .literal first, .literal last =>
    if first.character ≤ last.character then some (.range first last) else none
  | _, _ => none

/-- An item, or two with a hyphen between them. A hyphen in front of a bracket or of another hyphen
makes no range. -/
def readRange (ignoreBlanks : Bool) (text : List Char) : Option (ClassSet × List Char) :=
  match readItem ignoreBlanks text with
  | none => none
  | some (first, rest) => match passOver ignoreBlanks rest with
    | '-' :: more =>
      if [some ']', some '-'].contains (peek ignoreBlanks more) then
        first.toItem?.map fun item => (item, '-' :: more)
      else match readItem ignoreBlanks (passOver ignoreBlanks more) with
        | none => none
        | some (last, rest) => (range? first last).map fun item => (item, rest)
    | rest => first.toItem?.map fun item => (item, rest)

/-- What a step leads to: a class that is open, inside others, or a class with what follows it. -/
inductive Progress
  | reading (opened : OpenClass) (outer : List OpenClass) (rest : List Char)
  | complete (negated : Bool) (set : ClassSet) (rest : List Char)

/-- A closing bracket. -/
def close (opened : OpenClass) (rest : List Char) : List OpenClass → Progress
  | [] => .complete opened.negated opened.content rest
  | enclosing :: outer =>
    .reading (enclosing.push (.bracketed opened.negated opened.content)) outer rest

/-- One item, bracket or doubled sign more. -/
def step (ignoreBlanks : Bool) (opened : OpenClass) (outer : List OpenClass) (text : List Char) :
    Option Progress :=
  let item := (readRange ignoreBlanks text).map fun (item, rest) =>
    Progress.reading (opened.push item) outer rest
  match text with
  | ']' :: rest =>
    if opened.isFresh && opened.items.isEmpty then
      some (.reading (opened.pushCharacter ']') outer rest)
    else some (close opened rest outer)
  | '[' :: rest => match readNamed rest with
    | some (byName, rest) => some (.reading (opened.push byName) outer rest)
    | none =>
      let (inner, rest) := OpenClass.start ignoreBlanks rest
      some (.reading inner (opened :: outer) rest)
  | '-' :: rest =>
    if opened.isFresh then
      some (.reading { opened.pushCharacter '-' with isFresh := true } outer rest)
    else if rest.head? = some '-' then some (.reading opened.combine outer (rest.drop 1))
    else item
  | '&' :: '&' :: rest | '~' :: '~' :: rest => some (.reading opened.combine outer rest)
  | _ => item

/-- Reads the rest of a class, and gives it with the text that follows. Every step takes something
of the text. -/
def readFrom (ignoreBlanks : Bool) (opened : OpenClass) (outer : List OpenClass)
    (text : List Char) : Option (Bool × ClassSet × List Char) :=
  match step ignoreBlanks opened outer (passOver ignoreBlanks text) with
  | none => none
  | some (.complete negated set rest) => some (negated, set, rest)
  | some (.reading opened outer rest) =>
    if rest.length < text.length then readFrom ignoreBlanks opened outer rest else none
termination_by text.length

/-- Reads a class behind its opening bracket. -/
def read (ignoreBlanks : Bool) (text : List Char) : Option (Bool × ClassSet × List Char) :=
  let (opened, rest) := OpenClass.start ignoreBlanks text
  readFrom ignoreBlanks opened [] rest

end ClassSet

end Underwriting
