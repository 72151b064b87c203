import Underwriting.Json.Source

/-!
# Decoding documents

A decoder reads a domain value from a written JSON value. It fails either because the text is no
JSON (`malformed`) or because what it says is not such a document (`mismatch`), whichever is met
first from left to right. A record is decoded from its *fields*: an object gives them by name, in
any order and with unknown members passed over, and an array gives them in their declared order.
-/

namespace Underwriting

/-- Why a document was not decoded. -/
inductive DecodeError
  | malformed
  | mismatch
deriving DecidableEq

/-- A reader of a domain value. -/
abbrev Decoder (α : Type) := Source → Except DecodeError α

namespace Source

/-- The error met where a value of another kind is wanted. A scalar is read in full before its
kind is refused, and an array or object only up to its bracket. -/
def refusal : Source → DecodeError
  | .broken | .scalar (.number none) | .scalar (.text none) => .malformed
  | _ => .mismatch

end Source

namespace Decoder

/-- A text. -/
def text : Decoder String
  | .scalar (.text (some value)) => .ok value
  | other => .error other.refusal

/-- A truth value. -/
def bool : Decoder Bool
  | .scalar (.bool value) => .ok value
  | other => .error other.refusal

/-- A double; an integer is rounded to one. -/
def number : Decoder Binary64
  | .scalar (.number (some (.integer value))) => .ok (.ofInt value)
  | .scalar (.number (some (.float value))) => .ok value
  | other => .error other.refusal

/-- A whole number from zero up to `limit`. -/
def whole (limit : Nat) : Decoder Nat
  | .scalar (.number (some (.integer value))) =>
    if 0 ≤ value ∧ value ≤ limit then .ok value.toNat else .error .mismatch
  | other => .error other.refusal

/-- A whole number of 16 bits. -/
def word16 : Decoder UInt16 := fun source => (whole (UInt16.size - 1) source).map UInt16.ofNat

/-- A whole number of 32 bits. -/
def word32 : Decoder UInt32 := fun source => (whole (UInt32.size - 1) source).map UInt32.ofNat

/-- A whole number of 64 bits. -/
def word64 : Decoder UInt64 := fun source => (whole (UInt64.size - 1) source).map UInt64.ofNat

/-- Null for nothing, or a value. -/
def nullable {α : Type} (inner : Decoder α) : Decoder (Option α)
  | .scalar .null => .ok none
  | other => (inner other).map some

/-- Decodes the items of an array from left to right. -/
def items {α : Type} (inner : Decoder α) (closed : Bool) :
    List Source → Except DecodeError (List α)
  | [] => if closed then .ok [] else .error .malformed
  | item :: rest => match inner item with
    | .error error => .error error
    | .ok value => (items inner closed rest).map (value :: ·)

/-- A list of values. -/
def list {α : Type} (inner : Decoder α) : Decoder (List α)
  | .array values closed => items inner closed values
  | .buried true _ => .error .malformed
  | other => .error other.refusal

/-- The members of an object of any shape. -/
def members : Decoder (List (String × Json))
  | .object members closed => match (Source.object members closed).toJson? with
    | some (.object members) => .ok members
    | _ => .error .malformed
  | .buried false _ => .error .malformed
  | other => .error other.refusal

/-- A value given by its name. A name that is no text cannot be read. -/
def byName {α : Type} (choices : List (String × α)) (name : Source) : Except DecodeError α :=
  match name.text? with
  | some name => match choices.lookup name with
    | some value => .ok value
    | none => .error .mismatch
  | none => .error .malformed

/-- One of several named values: the name as a text, or an object whose only member has that name
and the value null. -/
def choice {α : Type} (choices : List (String × α)) : Decoder α
  | .scalar (.text (some name)) => byName choices (.scalar (.text (some name)))
  | .object ((name, value) :: rest) closed =>
    match byName choices name with
    | .error error => .error error
    | .ok chosen => match value with
      | .scalar .null => if rest.isEmpty && closed then .ok chosen else .error .malformed
      | other => .error other.refusal
  | _ => .error .malformed

/-- A text of a given form. -/
def textOf {α : Type} (read? : String → Option α) : Decoder α := fun source =>
  match text source with
  | .error error => .error error
  | .ok written => match read? written with
    | some value => .ok value
    | none => .error .mismatch

end Decoder

/-- Where decoding a record stops, as the number of members before, and why. -/
structure DecodeStop where
  position : Nat
  error : DecodeError

/-- What a record has for a field: a value at a position, or none. -/
inductive FieldEntry
  | present (position : Nat) (value : Source)
  | absent (stop : DecodeStop) (mayDefault : Bool)

/-- How the fields of a record are read: their names in declared order, and the record from what is
found for each name. Of several fields that fail, the one that is written first decides. -/
structure Fields (α : Type) where
  names : List String
  read : (String → FieldEntry) → Except DecodeStop α

namespace Fields

/-- A record without fields. -/
def pure {α : Type} (value : α) : Fields α := ⟨[], fun _ => .ok value⟩

/-- The results of two groups of fields, or the error that is met first. -/
def both {α β : Type} : Except DecodeStop (α → β) → Except DecodeStop α → Except DecodeStop β
  | .ok build, .ok value => .ok (build value)
  | .error stop, .ok _ => .error stop
  | .ok _, .error stop => .error stop
  | .error first, .error second =>
    .error (if first.position ≤ second.position then first else second)

/-- Fields that follow others. -/
def apply {α β : Type} (build : Fields (α → β)) (next : Fields α) : Fields β :=
  ⟨build.names ++ next.names, fun entry => both (build.read entry) (next.read entry)⟩

instance : Functor Fields where
  map build fields := apply (pure build) fields

instance : Applicative Fields where
  pure := pure
  seq build next := apply build (next ())

/-- A field that may be missing if a default is given, but is never replaced by it. -/
def field {α : Type} (name : String) (inner : Decoder α) (default? : Option α) : Fields α :=
  ⟨[name], fun entry => match entry name with
    | .present position value => match inner value with
      | .ok value => .ok value
      | .error error => .error ⟨position, error⟩
    | .absent stop mayDefault => match default?, mayDefault with
      | some value, true => .ok value
      | _, _ => .error stop⟩

/-- A field that has to be there. -/
def required {α : Type} (name : String) (inner : Decoder α) : Fields α := field name inner none

/-- A field with a value to take when it is missing. -/
def withDefault {α : Type} (name : String) (inner : Decoder α) (default : α) : Fields α :=
  field name inner (some default)

/-- A field that may be missing or null. -/
def optional {α : Type} (name : String) (inner : Decoder α) : Fields (Option α) :=
  field name (.nullable inner) (some none)

/-- The first member of a name. -/
def entryOfMembers (size : Nat) (name : String) (position : Nat) :
    List (Source × Source) → FieldEntry
  | [] => .absent ⟨size + 1, .mismatch⟩ true
  | (written, value) :: rest =>
    if written.text? == some name then .present position value
    else entryOfMembers size name (position + 1) rest

/-- The item in the place of a name. -/
def entryOfItems (closed : Bool) (items : List Source) (name : String) (position : Nat) :
    List String → FieldEntry
  | [] => .absent ⟨position, .mismatch⟩ false
  | other :: rest =>
    if other == name then match items with
      | value :: _ => .present position value
      | [] => .absent ⟨position, if closed then .mismatch else .malformed⟩ closed
    else entryOfItems closed (items.drop 1) name (position + 1) rest

/-- The first member that no field accounts for and that cannot be passed over: a name that is no
text, a field that was there before, or an unknown member whose value is no JSON. -/
def memberDefect? (names seen : List String) (closed : Bool) (position : Nat) :
    List (Source × Source) → Option DecodeStop
  | [] => if closed then none else some ⟨position, .malformed⟩
  | (written, value) :: rest =>
    match written.text? with
    | none => some ⟨position, .malformed⟩
    | some name =>
      if names.contains name then
        if seen.contains name then some ⟨position, .mismatch⟩
        else memberDefect? names (name :: seen) closed (position + 1) rest
      else if value.wellFormed then memberDefect? names seen closed (position + 1) rest
      else some ⟨position, .malformed⟩

/-- A record from its fields. -/
def decoder {α : Type} (fields : Fields α) : Decoder α
  | .object members closed =>
    let entry name := entryOfMembers members.length name 0 members
    match fields.read entry, memberDefect? fields.names [] closed 0 members with
    | .ok value, none => .ok value
    | .ok _, some stop => .error stop.error
    | .error stop, none => .error stop.error
    | .error stop, some defect =>
      .error (if stop.position ≤ defect.position then stop.error else defect.error)
  | .array items closed =>
    match fields.read fun name => entryOfItems closed items name 0 fields.names with
    | .error stop => .error stop.error
    | .ok value =>
      if items.length ≤ fields.names.length && closed then .ok value else .error .malformed
  | .buried _ _ => .error .malformed
  | other => .error other.refusal

end Fields

/-- A document as one text with nothing behind it. -/
def Decoder.wholeText {α : Type} (decoder : Decoder α) (text : String) : Except DecodeError α :=
  match Source.read text with
  | (source, rest) => match decoder source with
    | .error error => .error error
    | .ok value => if rest.isEmpty then .ok value else .error .malformed

/-- A document at the front of a text. -/
def Decoder.leading {α : Type} (decoder : Decoder α) (text : String) : Except DecodeError α :=
  decoder (Source.read text).1

/-- A document given as a JSON value. -/
def Decoder.value {α : Type} (decoder : Decoder α) (value : Json) : Except DecodeError α :=
  decoder value.toSource

end Underwriting
