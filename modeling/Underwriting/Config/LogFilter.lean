import Underwriting.Number.Reading
import Underwriting.Pattern.Support
import Underwriting.Text.Slice
import Underwriting.Text.Split

/-!
# Log filters

Which texts select what is logged: directives with commas between them. A directive is a level, a
target, or a target and a span with a level behind an equals sign. Only whether a text is a filter
is decided here, and why not.
-/

namespace Underwriting.LogFilter

/-- The names of the levels. -/
def levelNames : List String := ["trace", "debug", "info", "warn", "error", "off"]

/-- A level by name, without regard to case, or by number. -/
def isLevel (text : List Char) : Bool :=
  levelNames.contains (String.ofList (text.map Char.toLower)) ||
    (Numeral.read? 5 text).isSome

/-- A value that a field of a span is compared with: a number or a pattern. -/
def isFieldValue (text : List Char) : Bool :=
  (Binary64.read? (String.ofList text)).isSome || isPattern text

/-- A field of a span: a name, alone or with a value behind an equals sign. What stands behind a
second one is passed over. -/
def isField (text : List Char) : Bool :=
  !text.isEmpty &&
    match splitOn '=' text with
    | _ :: value :: _ => isFieldValue value
    | _ => true

/-- Why a text is no filter: a directive has not the form of one, or a part of it would have to be
cut out of the text inside a character. -/
inductive FilterFault
  | malformed
  | splitCharacter
deriving DecidableEq

/-- Where a reader stands in a directive: at its start, in a level or target, in the name of a span,
in a field of the span or in a level that begins behind so many bytes, behind the fields, or behind
the span. -/
inductive Phase
  | start
  | word
  | span (first : Nat)
  | field (first : Nat)
  | afterFields
  | afterSpan
  | level (first : Nat)
deriving DecidableEq

/-- The first character of a level or target. -/
def beginsWord (character : Char) : Bool :=
  character == '-' || character == ':' || character == '_' || isAlphanumeric character

/-- The part of a directive between two places counted in bytes. -/
def part (directive : List Char) (first last : Nat) : Except FilterFault (List Char) :=
  match textBetween? first last directive with
  | some text => .ok text
  | none => .error .splitCharacter

/-- One character more, behind so many bytes of a directive. A target, a span and a field are cut
out where they end, and only the field is looked at. -/
def Phase.step (directive : List Char) (offset : Nat) (character : Char) :
    Phase → Except FilterFault Phase
  | .start =>
    if character = '[' then .ok (.span (offset + 1))
    else if beginsWord character then .ok .word
    else .error .malformed
  | .word =>
    if character = '=' then (part directive 0 offset).map fun _ => .level (offset + 1)
    else if character = '[' then (part directive 0 offset).map fun _ => .span (offset + 1)
    else .ok .word
  | .span first =>
    if character = ']' then (part directive first offset).map fun _ => .afterSpan
    else if character = '\x7b' then (part directive first offset).map fun _ => .field (offset + 1)
    else .ok (.span first)
  | .field first =>
    if character ≠ '\x7d' then .ok (.field first)
    else match part directive first offset with
      | .error fault => .error fault
      | .ok text => if isField text then .ok .afterFields else .error .malformed
  | .afterFields => if character = ']' then .ok .afterSpan else .error .malformed
  | .afterSpan => if character = '=' then .ok (.level (offset + 1)) else .error .malformed
  | .level first => .ok (.level first)

/-- The phase behind the rest of a directive, which begins behind so many bytes. -/
def Phase.after (directive : List Char) (offset : Nat) (phase : Phase) :
    List Char → Except FilterFault Phase
  | [] => .ok phase
  | character :: rest => match phase.step directive offset character with
    | .ok phase => phase.after directive (offset + character.utf8Size) rest
    | .error fault => .error fault

/-- The fault of a directive that ends here. A level may be left out. -/
def Phase.faultAtEnd? (directive : List Char) : Phase → Option FilterFault
  | .word | .afterSpan => none
  | .level first => match textFrom? first directive with
    | some text => if text.isEmpty || isLevel text then none else some .malformed
    | none => some .splitCharacter
  | .start | .span _ | .field _ | .afterFields => some .malformed

/-- The first fault of a directive. It is read without the white space around it, and bytes are
counted from where it then begins; but its parts are cut from it as it stands, so that white space
in front shifts them. -/
def directiveFault? (text : List Char) : Option FilterFault :=
  match Phase.start.after text 0 (trimBlanks text) with
  | .ok phase => phase.faultAtEnd? text
  | .error fault => some fault

/-- The first fault of a text as a filter: directives with commas between them, of which any may be
left out. -/
def fault? (text : String) : Option FilterFault :=
  (splitOn ',' text.toList).findSome? fun directive =>
    if directive.isEmpty then none else directiveFault? directive

end Underwriting.LogFilter
