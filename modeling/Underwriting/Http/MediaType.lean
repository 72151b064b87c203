import Underwriting.Http.Token

/-!
# Media types

The type of a message body: a kind, a subtype and parameters. The parameters are checked for their
form and not kept. Main question: is the body a JSON document?
-/

namespace Underwriting

/-- The kind and the subtype of a body. -/
structure MediaType where
  kind : List Char
  subtype : List Char
deriving DecidableEq

namespace MediaType

/-- A character that may stand between quotes. -/
def isQuotable (character : Char) : Bool := 32 ≤ character.toNat && character.toNat < 127

/-- Where a reader stands in the parameters: before one, in its name, before or in its value, at
the first or a later character of a quoted value, or behind one. -/
inductive ParameterPhase
  | start
  | name
  | valueStart
  | value
  | quoteStart
  | quoted
  | afterQuote
deriving DecidableEq

namespace ParameterPhase

/-- One character more; nothing if it cannot stand there. The first character between quotes may be
a quote itself. -/
def step (character : Char) : ParameterPhase → Option ParameterPhase
  | .start =>
    if character = ' ' then some .start
    else if isTokenCharacter character then some .name
    else none
  | .name =>
    if isTokenCharacter character then some .name
    else if character = '=' then some .valueStart
    else none
  | .valueStart =>
    if character = '"' then some .quoteStart
    else if isTokenCharacter character then some .value
    else none
  | .value =>
    if isTokenCharacter character then some .value
    else if character = ';' then some .start
    else none
  | .quoteStart => if isQuotable character then some .quoted else none
  | .quoted =>
    if character = '"' then some .afterQuote
    else if isQuotable character then some .quoted
    else none
  | .afterQuote =>
    if character = ' ' then some .afterQuote
    else if character = ';' then some .start
    else none

/-- The parameters may end here. -/
def mayEnd : ParameterPhase → Bool
  | .start | .valueStart | .value | .afterQuote => true
  | .name | .quoteStart | .quoted => false

end ParameterPhase

/-- Well-formed parameters, behind the semicolon that begins them. -/
def areParameters (text : List Char) : Bool :=
  let phase? := text.foldl
    (fun (phase? : Option ParameterPhase) character => phase?.bind (·.step character))
    (some .start)
  match phase? with
  | some phase => phase.mayEnd
  | none => false

/-- The media type of a text: two tokens with a slash between them, and parameters. -/
def parse? (text : List Char) : Option MediaType :=
  let kind := text.takeWhile isTokenCharacter
  match text.dropWhile isTokenCharacter with
  | '/' :: rest =>
    let subtype := rest.takeWhile isTokenCharacter
    if kind.isEmpty || subtype.isEmpty then none
    else match rest.dropWhile isTokenCharacter with
      | [] => some ⟨kind, subtype⟩
      | ';' :: parameters => if areParameters parameters then some ⟨kind, subtype⟩ else none
      | _ => none
  | _ => none

/-- The characters behind the last plus sign. -/
def suffix (subtype : List Char) : List Char := (subtype.reverse.takeWhile (· ≠ '+')).reverse

/-- The characters before the last plus sign, unless that is the first character. -/
def stem (subtype : List Char) : List Char :=
  match (subtype.reverse.dropWhile (· ≠ '+')).drop 1 with
  | [] => subtype
  | before => before.reverse

/-- A text without regard to case. -/
def isWord (word : String) (text : List Char) : Bool := text.map Char.toLower == word.toList

/-- A JSON document: of the kind `application`, with `json` before or behind the last plus sign of
its subtype. -/
def isJson (media : MediaType) : Bool :=
  isWord "application" media.kind &&
    (isWord "json" (stem media.subtype) ||
      (stem media.subtype ≠ media.subtype && isWord "json" (suffix media.subtype)))

end MediaType

end Underwriting
