import Underwriting.Pattern.Class
import Underwriting.Text.Alphanumeric

/-!
# Reading patterns

A pattern is read from left to right with the groups that are open. A switch for blanks holds to
the end of the group it stands in.
-/

namespace Underwriting

namespace FlagChange

/-- The letters of the switches, and the sign behind which they are turned off. -/
def letters : List Char := ['i', 'm', 's', 'U', 'u', 'R', 'x', '-']

/-- Whether a letter is turned on or off. -/
def state? (written : List Char) (letter : Char) : Option Bool :=
  if (written.takeWhile (· ≠ '-')).contains letter then some true
  else if written.contains letter then some false
  else Option.none

/-- The switches that are written; none twice, and something behind a minus sign. -/
def ofLetters? (written : List Char) : Option FlagChange :=
  if written.all letters.contains && decide written.Nodup && written.getLast? ≠ some '-' then
    some ⟨state? written 'i', state? written 'u', state? written 'x'⟩
  else Option.none

end FlagChange

/-- What an opening parenthesis begins: switches, or a group that may have a name. -/
inductive PatternOpening
  | flags (change : FlagChange)
  | group (name? : Option (List Char)) (change : FlagChange)

namespace PatternOpening

/-- A name of a group: a letter or an underscore, and behind it also numbers, points and
brackets. -/
def isName : List Char → Bool
  | [] => false
  | first :: rest =>
    (first == '_' || isAlphabetic first) && rest.all fun character =>
      ['_', '.', '[', ']'].contains character || isAlphanumeric character

/-- A group with a name in front of its closing angle bracket. -/
def readName (text : List Char) : Option (PatternOpening × List Char) :=
  let name := text.takeWhile (· ≠ '>')
  match text.dropWhile (· ≠ '>') with
  | _ :: rest => if isName name then some (.group (some name) .none, rest) else none
  | [] => none

/-- Switches, for a group or for what follows. -/
def readFlags (text : List Char) : Option (PatternOpening × List Char) :=
  let isLetter (character : Char) : Bool := character ≠ ':' && character ≠ ')'
  let written := text.takeWhile isLetter
  match FlagChange.ofLetters? written, text.dropWhile isLetter with
  | some change, ':' :: rest => some (.group none change, rest)
  | some change, ')' :: rest => if written.isEmpty then none else some (.flags change, rest)
  | _, _ => none

/-- Reads what stands behind an opening parenthesis. There is no looking ahead or back. -/
def read : List Char → Option (PatternOpening × List Char)
  | '?' :: '=' :: _ | '?' :: '!' :: _ | '?' :: '<' :: '=' :: _ | '?' :: '<' :: '!' :: _ => none
  | '?' :: 'P' :: '<' :: rest | '?' :: '<' :: rest => readName rest
  | '?' :: rest => readFlags rest
  | rest => some (.group none .none, rest)

end PatternOpening

/-- A group that is being read, with what was read before it in the enclosing one, and whether that
ignores blanks. -/
structure OpenGroup where
  change : FlagChange
  ignoreBlanks : Bool
  branches : List Pattern
  members : List Pattern

/-- A pattern that is being read: the names of groups, the finished branches and the members of the
last branch in reverse, and the open groups, the innermost first. -/
structure PatternReader where
  ignoreBlanks : Bool
  names : List (List Char)
  branches : List Pattern
  members : List Pattern
  outer : List OpenGroup

namespace PatternReader

/-- Nothing was read. -/
def start : PatternReader := ⟨false, [], [], [], []⟩

/-- What was read since the innermost group was opened. -/
def content (reader : PatternReader) : Pattern :=
  .ofBranches (.ofMembers reader.members.reverse :: reader.branches).reverse

/-- One member more. -/
def push (reader : PatternReader) (member : Pattern) : PatternReader :=
  { reader with members := member :: reader.members }

/-- A bar behind the last branch. -/
def choose (reader : PatternReader) : PatternReader :=
  { reader with
    branches := .ofMembers reader.members.reverse :: reader.branches
    members := [] }

/-- Switches, or the beginning of a group. A name is given once. -/
def begin? (reader : PatternReader) : PatternOpening → Option PatternReader
  | .flags change =>
    some { reader.push (.flags change) with
      ignoreBlanks := change.ignoreBlanks?.getD reader.ignoreBlanks }
  | .group name? change =>
    if name?.any reader.names.contains then none
    else some
      { ignoreBlanks := change.ignoreBlanks?.getD reader.ignoreBlanks
        names := name?.toList ++ reader.names
        branches := []
        members := []
        outer := ⟨change, reader.ignoreBlanks, reader.branches, reader.members⟩ :: reader.outer }

/-- A closing parenthesis. -/
def close? (reader : PatternReader) : Option PatternReader :=
  match reader.outer with
  | [] => none
  | group :: outer =>
    some ⟨group.ignoreBlanks, reader.names, group.branches,
      .group group.change reader.content :: group.members, outer⟩

/-- A sign of repetition behind the last member. Switches cannot be repeated. -/
def repeat? (reader : PatternReader) : Option PatternReader :=
  match reader.members with
  | [] | .flags _ :: _ => none
  | member :: members => some { reader with members := .repetition member :: members }

/-- The next part of a pattern and the text that follows. A question mark directly behind a sign of
repetition belongs to it. -/
def step (reader : PatternReader) : List Char → Option (PatternReader × List Char)
  | [] => none
  | character :: rest =>
    if character = '(' then
      match PatternOpening.read (passOver reader.ignoreBlanks rest) with
      | some (opening, rest) => (reader.begin? opening).map (·, rest)
      | none => none
    else if character = ')' then reader.close?.map (·, rest)
    else if character = '|' then some (reader.choose, rest)
    else if character = '[' then
      (ClassSet.read reader.ignoreBlanks rest).map fun (negated, set, rest) =>
        (reader.push (.bracketed negated set), rest)
    else if ['?', '*', '+'].contains character then
      reader.repeat?.map (·, if rest.head? = some '?' then rest.drop 1 else rest)
    else if character = '\x7b' then none
    else if character = '\\' then
      (Escaped.read reader.ignoreBlanks rest).map fun (escaped, rest) =>
        (reader.push escaped.toPattern, rest)
    else if character = '.' then some (reader.push .dot, rest)
    else if character = '^' ∨ character = '$' then some (reader.push .anchor, rest)
    else some (reader.push (.literal ⟨character, false⟩), rest)

/-- Reads the rest of a pattern. Every step takes something of the text. -/
def readFrom (reader : PatternReader) (text : List Char) : Option Pattern :=
  match passOver reader.ignoreBlanks text with
  | [] => if reader.outer.isEmpty then some reader.content else none
  | visible => match reader.step visible with
    | none => none
    | some (reader, rest) => if rest.length < text.length then reader.readFrom rest else none
termination_by text.length

end PatternReader

/-- The pattern of a text. -/
def Pattern.read? (text : List Char) : Option Pattern := PatternReader.start.readFrom text

end Underwriting
