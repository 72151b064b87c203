import Underwriting.Config.Environment
import Underwriting.Text.Alphanumeric
import Underwriting.Text.Blank

/-!
# Environment files

A text of assignments, one a line, that supplies variables where they are not set. A value may be
quoted, weakly or strongly, and then goes over several lines; outside strong quotes it may refer to
variables set before. Reading stops at the first line that is no assignment.
-/

namespace Underwriting.EnvFile

/-- What the quotes and escapes before a character leave open. `blank` stands behind a white space
character that makes a number sign the start of a comment. -/
inductive Quoting
  | plain
  | blank
  | escape
  | weak
  | weakEscape
  | strong
  | strongEscape
deriving DecidableEq

/-- What is open behind a character outside quotes. -/
def Quoting.afterPlain (character : Char) : Quoting :=
  if character = '\\' then .escape
  else if character = '"' then .weak
  else if character = '\'' then .strong
  else .plain

/-- What is open behind one character more. Of neighbouring white space only every other character
counts as `blank`. -/
def Quoting.step (character : Char) : Quoting → Quoting
  | .plain =>
    if isBlank character && character ≠ '\n' && character ≠ '\r' then .blank
    else afterPlain character
  | .blank => afterPlain character
  | .escape => .plain
  | .weak =>
    if character = '\\' then .weakEscape else if character = '"' then .plain else .weak
  | .weakEscape => .weak
  | .strong =>
    if character = '\\' then .strongEscape else if character = '\'' then .plain else .strong
  | .strongEscape => .strong

/-- Where a reader stands: at the start of a line, in a line with its characters so far in reverse,
or in a comment behind the characters of its line. -/
inductive LinePhase
  | start
  | content (quoting : Quoting) (before : List Char)
  | comment (before : List Char)

/-- A line that begins with a number sign, but for white space. -/
def beginsComment (text : List Char) : Bool :=
  (text.dropWhile fun character => isBlank character && character ≠ '\n').head? == some '#'

/-- One character more inside a line: the phase behind it and the line if it ended. -/
def LinePhase.advance (character : Char) :
    LinePhase → LinePhase × Option (List Char)
  | .comment before =>
    if character = '\n' then (.start, some before.reverse) else (.comment before, none)
  | .content quoting before =>
    if quoting = .blank ∧ character = '#' then (.comment before, none)
    else if character = '\n' ∧ quoting.step character = .plain then (.start, some before.reverse)
    else (.content (quoting.step character) (character :: before), none)
  | .start => (.start, none)

/-- The phase in which the characters of a line are read. -/
def LinePhase.enter (text : List Char) : LinePhase → LinePhase
  | .start => if beginsComment text then .comment [] else .content .plain []
  | phase => phase

/-- The lines of a text, quotes going over the ends of lines. The last is missing if the text ends
with a quote, an escape or white space open. -/
def linesFrom (phase : LinePhase) (text : List Char) : List (Option (List Char)) :=
  match text with
  | [] => match phase with
    | .start => []
    | .content .plain before | .comment before => [some before.reverse]
    | .content _ _ => [none]
  | character :: rest =>
    match (phase.enter (character :: rest)).advance character with
    | (phase, some line) => some line :: linesFrom phase rest
    | (phase, none) => linesFrom phase rest

/-- Where a reader stands in a value. In a reference `weak` tells whether weak quotes are open
around it and `name` holds the name so far in reverse. -/
inductive ValuePhase
  | bare
  | weak
  | strong
  | escape (weak : Bool)
  | reference (weak : Bool) (name : List Char)
  | braced (weak : Bool) (name : List Char)
  | finished
  | remark
deriving DecidableEq

/-- The phase outside references and escapes. -/
def ValuePhase.within (weak : Bool) : ValuePhase := if weak then .weak else .bare

/-- The text that a reference stands for, in reverse; empty if there is none. -/
def referredTo (environment : Environment) (reference : List Char) : List Char :=
  ((environment.textBehind? reference.reverse).getD []).reverse

/-- The character that an escape stands for. -/
def escaped? (character : Char) : Option Char :=
  if ['\\', '\'', '"', '$', ' '].contains character then some character
  else if character = 'n' then some '\n'
  else none

/-- One character more of a value: the phase behind it and the output so far in reverse; nothing if
it cannot stand there. The character that ends a reference stands for itself. -/
def stepValue (environment : Environment) (character : Char) (output : List Char) :
    ValuePhase → Option (ValuePhase × List Char)
  | .bare =>
    if character = '$' then some (.reference false [], output)
    else if character = '\'' then some (.strong, output)
    else if character = '"' then some (.weak, output)
    else if character = '\\' then some (.escape false, output)
    else if character = ' ' ∨ character = '\t' then some (.finished, output)
    else some (.bare, character :: output)
  | .weak =>
    if character = '$' then some (.reference true [], output)
    else if character = '"' then some (.bare, output)
    else if character = '\\' then some (.escape true, output)
    else some (.weak, character :: output)
  | .strong =>
    if character = '\'' then some (.bare, output) else some (.strong, character :: output)
  | .escape weak => match escaped? character with
    | some meant => some (.within weak, meant :: output)
    | none => none
  | .reference weak name =>
    if isAlphanumeric character then some (.reference weak (character :: name), output)
    else if character = '\x7b' ∧ name = [] then some (.braced weak [], output)
    else if character = '$' then some (.reference weak [], referredTo environment name ++ output)
    else some (.within weak, character :: (referredTo environment name ++ output))
  | .braced weak name =>
    if character = '\x7d' then some (.within weak, referredTo environment name ++ output)
    else some (.braced weak (character :: name), output)
  | .finished =>
    if character = ' ' ∨ character = '\t' then some (.finished, output)
    else if character = '#' then some (.remark, output)
    else none
  | .remark => some (.remark, output)

/-- The value behind the characters of a value, unless a quote or a brace is open. -/
def endValue (environment : Environment) (output : List Char) : ValuePhase → Option String
  | .bare | .finished | .remark | .escape false => some (String.ofList output.reverse)
  | .reference false name =>
    some (String.ofList (referredTo environment name ++ output).reverse)
  | .weak | .strong | .escape true | .reference true _ | .braced _ _ => none

/-- Reads a value. -/
def readValue (environment : Environment) (phase : ValuePhase) (output : List Char) :
    List Char → Option String
  | [] => endValue environment output phase
  | character :: rest => match stepValue environment character output phase with
    | none => none
    | some (phase, output) => readValue environment phase output rest

/-- A character of a name behind its first. -/
def isNameCharacter (character : Char) : Bool :=
  character.isAlphanum || character == '_' || character == '.'

/-- A name at the front of a text and the text behind it and white space. -/
def name? (text : List Char) : Option (List Char × List Char) :=
  match text with
  | [] => none
  | first :: _ =>
    if first.isAlpha || first == '_' then
      some (text.takeWhile isNameCharacter,
        (text.dropWhile isNameCharacter).dropWhile isBlank)
    else none

/-- A name and the text behind its equals sign. The word `export` may stand before the name. -/
def target? (text : List Char) : Option (List Char × List Char) :=
  match name? text with
  | none => none
  | some (name, '=' :: rest) => some (name, rest)
  | some (name, rest) =>
    if name = ['e', 'x', 'p', 'o', 'r', 't'] then
      match name? rest with
      | some (name, '=' :: rest) => some (name, rest)
      | _ => none
    else none

/-- What a line is: blank or a comment, an assignment, or neither. -/
inductive Line
  | empty
  | assignment (name value : String)
  | malformed
deriving DecidableEq

/-- Nothing, or nothing but a comment. -/
def isVacant (text : List Char) : Bool := text.isEmpty || text.head? == some '#'

/-- Reads a line; its references are to variables of the environment. -/
def Line.read (environment : Environment) (text : List Char) : Line :=
  let text := trimBlanks text
  if isVacant text then .empty
  else match target? text with
    | none => .malformed
    | some (name, rest) =>
      let rest := rest.dropWhile isBlank
      if isVacant rest then .assignment (String.ofList name) ""
      else match readValue environment .bare [] rest with
        | some value => .assignment (String.ofList name) value
        | none => .malformed

/-- The environment with the variables that lines supply, up to the first malformed line. -/
def supplyLines (environment : Environment) : List (Option (List Char)) → Environment
  | [] => environment
  | none :: _ => environment
  | some text :: rest => match Line.read environment text with
    | .empty => supplyLines environment rest
    | .assignment name value => supplyLines (environment.supply name value) rest
    | .malformed => environment

/-- The text without a byte order mark at its front. -/
def withoutMark : List Char → List Char
  | '\uFEFF' :: rest => rest
  | text => text

/-- The environment with the variables that a text supplies. A variable that is set keeps its
value, so the first assignment to a name counts. -/
def load (environment : Environment) (text : String) : Environment :=
  supplyLines environment (linesFrom .start (withoutMark text.toList))

end Underwriting.EnvFile
