import Underwriting.Json.Basic
import Underwriting.Json.Token

/-!
# Written JSON

A JSON text as it was written: members in their order, repeated names kept, and the place where
the text stops being JSON marked. A decoder walks this tree from left to right, so it meets a
member of the wrong type and a defect of the text in the order in which a reader does. Values
nested deeper than the limit can be passed over but not decoded.
-/

namespace Underwriting

/-- A written value. `broken` stands where a value was due and the text has none. An array or
object is `closed` unless the text breaks off inside it. `buried` is an array or object nested
beyond the limit, of which only the kind is kept and whether it is well formed. -/
inductive Source
  | broken
  | scalar (value : JsonScalar)
  | array (items : List Source) (closed : Bool)
  | object (members : List (Source × Source)) (closed : Bool)
  | buried (isArray wellFormed : Bool)

namespace Source

/-- The deepest level at which an array or object can be decoded. -/
def depthLimit : Nat := 127

/-- The text of a written name or string. -/
def text? : Source → Option String
  | .scalar (.text (some value)) => some value
  | _ => none

/-- A written string, whether or not its escapes make a text. -/
def isString : Source → Bool
  | .scalar (.text _) => true
  | _ => false

mutual

/-- The text is JSON throughout the value, so that it can be passed over. -/
def wellFormed : Source → Bool
  | .broken => false
  | .scalar _ => true
  | .array items closed => allWellFormed items && closed
  | .object members closed => membersWellFormed members && closed
  | .buried _ wellFormed => wellFormed

/-- Every item can be passed over. -/
def allWellFormed : List Source → Bool
  | [] => true
  | item :: rest => wellFormed item && allWellFormed rest

/-- Every member has a string for its name and a value that can be passed over. -/
def membersWellFormed : List (Source × Source) → Bool
  | [] => true
  | (name, value) :: rest => isString name && wellFormed value && membersWellFormed rest

end

mutual

/-- How deep arrays and objects nest in a value. -/
def depth : Source → Nat
  | .array items _ => itemsDepth items + 1
  | .object members _ => membersDepth members + 1
  | _ => 0

/-- How deep arrays and objects nest in the items of an array. -/
def itemsDepth : List Source → Nat
  | [] => 0
  | item :: rest => max (depth item) (itemsDepth rest)

/-- How deep arrays and objects nest in the values of an object. -/
def membersDepth : List (Source × Source) → Nat
  | [] => 0
  | (_, value) :: rest => max (depth value) (membersDepth rest)

end

mutual

/-- The value that was written, if all of it can be decoded. -/
def toJson? : Source → Option Json
  | .scalar .null => some .null
  | .scalar (.bool value) => some (.bool value)
  | .scalar (.number (some (.integer value))) => some (.integer value)
  | .scalar (.number (some (.float value))) => some (.float value)
  | .scalar (.text (some value)) => some (.string value)
  | .array items true => (itemsToJson? items).map .array
  | .object members true => (membersToJson? members).map .ofMembers
  | _ => none

/-- The items of an array, if all can be decoded. -/
def itemsToJson? : List Source → Option (List Json)
  | [] => some []
  | item :: rest => match toJson? item, itemsToJson? rest with
    | some item, some rest => some (item :: rest)
    | _, _ => none

/-- The members of an object as they were written, if all can be decoded. -/
def membersToJson? : List (Source × Source) → Option (List (String × Json))
  | [] => some []
  | (name, value) :: rest => match text? name, toJson? value, membersToJson? rest with
    | some name, some value, some rest => some ((name, value) :: rest)
    | _, _, _ => none

end

/-- What an array waits for. -/
inductive ArrayPhase
  | start
  | afterItem
  | afterComma

/-- What an object waits for. -/
inductive ObjectPhase
  | start
  | afterName (name : Source)
  | afterColon (name : Source)
  | afterMember
  | afterComma

/-- An array or object that is being read, its items or members in reverse. -/
inductive Frame
  | array (items : List Source) (phase : ArrayPhase)
  | object (members : List (Source × Source)) (phase : ObjectPhase)

/-- What a token leads to: more to read, a complete value, or the end of what is JSON. -/
inductive Progress
  | reading (frames : List Frame)
  | complete (value : Source)
  | stopped (frames : List Frame)

namespace Frame

/-- What was read of an array or object in which the text breaks off, at the given inner value if
one had begun. -/
def cut : Frame → Option Source → Source
  | .array items _, inner? => .array (inner?.toList ++ items).reverse false
  | .object members (.afterName name), _ => .object ((name, .broken) :: members).reverse false
  | .object members (.afterColon name), inner? =>
    .object ((name, inner?.getD .broken) :: members).reverse false
  | .object members _, _ => .object members.reverse false

/-- The frame with a complete value in the place that it waits for. -/
def place (value : Source) : Frame → Frame
  | .array items _ => .array (value :: items) .afterItem
  | .object members (.afterColon name) => .object ((name, value) :: members) .afterMember
  | .object members phase => .object members phase

end Frame

/-- The frames with a complete value in the innermost; without frames the value is the whole. -/
def deliver (value : Source) : List Frame → Progress
  | [] => .complete value
  | frame :: outer => .reading (frame.place value :: outer)

/-- A closed array or object below `level` others. -/
def closed (level : Nat) (value : Source) : Source :=
  if level < depthLimit then value
  else match value with
    | .array _ _ => .buried true value.wellFormed
    | other => .buried false other.wellFormed

/-- A token where a value is due. -/
def beginValue (frames : List Frame) : JsonToken → Progress
  | .scalar value => deliver (.scalar value) frames
  | .openArray => .reading (.array [] .start :: frames)
  | .openObject => .reading (.object [] .start :: frames)
  | _ => .stopped frames

/-- A token where a name is due. What is no string cannot be a name, and the text stops there. -/
def beginName (members : List (Source × Source)) (outer : List Frame) : JsonToken → Progress
  | .scalar (.text value?) =>
    .reading (.object members (.afterName (.scalar (.text value?))) :: outer)
  | .scalar value => .stopped (.object members (.afterName (.scalar value)) :: outer)
  | .openArray => .stopped (.object members (.afterName (.array [] false)) :: outer)
  | .openObject => .stopped (.object members (.afterName (.object [] false)) :: outer)
  | _ => .stopped (.object members .start :: outer)

/-- One token more. -/
def step (frames : List Frame) (token : JsonToken) : Progress :=
  match frames with
  | [] => beginValue [] token
  | .array items phase :: outer =>
    match phase, token with
    | .afterItem, .comma => .reading (.array items .afterComma :: outer)
    | .afterItem, .closeArray | .start, .closeArray =>
      deliver (closed outer.length (.array items.reverse true)) outer
    | .afterItem, _ => .stopped frames
    | .start, token | .afterComma, token => beginValue frames token
  | .object members phase :: outer =>
    match phase, token with
    | .afterMember, .comma => .reading (.object members .afterComma :: outer)
    | .afterMember, .closeObject | .start, .closeObject =>
      deliver (closed outer.length (.object members.reverse true)) outer
    | .afterName name, .colon => .reading (.object members (.afterColon name) :: outer)
    | .afterColon _, token => beginValue frames token
    | .start, token | .afterComma, token => beginName members outer token
    | .afterMember, _ | .afterName _, _ => .stopped frames

/-- A broken array or object below `level` others; beyond the limit nothing of it is kept. -/
def broken? (level : Nat) (value : Source) : Source :=
  if level < depthLimit then value
  else match value with
    | .array _ _ => .buried true false
    | _ => .buried false false

/-- What the frames hold when the text breaks off. -/
def collapse (frames : List Frame) : Source :=
  let (value?, _) := frames.foldl
    (fun (inner?, level) frame => (some (broken? (level - 1) (frame.cut inner?)), level - 1))
    (none, frames.length)
  value?.getD .broken

/-- The first value of a list of tokens and the tokens behind it. -/
def readFrom (frames : List Frame) : List JsonToken → Source × List JsonToken
  | [] => (collapse frames, [])
  | token :: rest =>
    match step frames token with
    | .reading frames => readFrom frames rest
    | .complete value => (value, rest)
    | .stopped frames => (collapse frames, [])

/-- The first value of a text and the tokens behind it. -/
def read (text : String) : Source × List JsonToken := readFrom [] (JsonToken.scan text.toList)

end Source

namespace Json

mutual

/-- A value as it would be written in full. -/
def toSource : Json → Source
  | .null => .scalar .null
  | .bool value => .scalar (.bool value)
  | .integer value => .scalar (.number (some (.integer value)))
  | .float value => .scalar (.number (some (.float value)))
  | .string value => .scalar (.text (some value))
  | .array items => .array (itemsToSource items) true
  | .object members => .object (membersToSource members) true

/-- The items of an array as they would be written. -/
def itemsToSource : List Json → List Source
  | [] => []
  | item :: rest => toSource item :: itemsToSource rest

/-- The members of an object as they would be written. -/
def membersToSource : List (String × Json) → List (Source × Source)
  | [] => []
  | (name, value) :: rest => (.scalar (.text (some name)), toSource value) :: membersToSource rest

end

/-- The value of a text that is one JSON value and nothing more. -/
def parse? (text : String) : Option Json :=
  match Source.read text with
  | (source, []) => source.toJson?
  | _ => none

end Json

end Underwriting
