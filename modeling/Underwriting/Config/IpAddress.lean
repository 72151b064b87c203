import Underwriting.Text.Hexadecimal
import Underwriting.Text.Numeral
import Underwriting.Text.Split

/-!
# Internet addresses

Addresses of both versions in their usual text. An address of version 6 is eight groups; one run of
zero groups may be left out, and the last two groups may be written like an address of version 4.
-/

namespace Underwriting

/-- An internet address: four bytes, or eight groups of sixteen bits. -/
inductive IpAddress
  | v4 (bytes : List UInt8)
  | v6 (groups : List UInt16)
deriving DecidableEq

/-- An address and a port. -/
structure SocketAddress where
  address : IpAddress
  port : UInt16
deriving DecidableEq

namespace IpAddress

/-- The address by which a machine reaches itself. -/
def loopback : IpAddress := .v4 [127, 0, 0, 1]

/-- A byte in decimal, without leading zeros. -/
def byte? (text : List Char) : Option UInt8 :=
  if text.isEmpty || 3 < text.length || (text.head? == some '0' && 1 < text.length) then none
  else match Numeral.value? text with
    | some value => if value < 256 then some (UInt8.ofNat value) else none
    | none => none

/-- Four bytes with points between them. -/
def bytes? (text : List Char) : Option (List UInt8) :=
  let pieces := splitOn '.' text
  if pieces.length = 4 then pieces.mapM byte? else none

/-- A group of one to four hexadecimal digits. -/
def group? (text : List Char) : Option UInt16 :=
  if text.isEmpty || 4 < text.length then none
  else (Hexadecimal.number? text).map UInt16.ofNat

/-- Two bytes as a group. -/
def groupOfBytes (high low : UInt8) : UInt16 := UInt16.ofNat (256 * high.toNat + low.toNat)

/-- The last piece of an address: a group, or four bytes that stand for two groups. -/
def lastGroups? (text : List Char) : Option (List UInt16) :=
  match bytes? text with
  | some [first, second, third, fourth] =>
    some [groupOfBytes first second, groupOfBytes third fourth]
  | _ => (group? text).map ([·])

/-- The groups of a text with colons between them; none of an empty text. -/
def groups? (text : List Char) : Option (List UInt16) :=
  if text.isEmpty then some []
  else
    let pieces := splitOn ':' text
    match pieces.dropLast.mapM group?, pieces.getLast?.bind lastGroups? with
    | some front, some last => some (front ++ last)
    | _, _ => none

/-- The groups of a text none of which is written as bytes. -/
def plainGroups? (text : List Char) : Option (List UInt16) :=
  if text.isEmpty then some [] else (splitOn ':' text).mapM group?

/-- The text before and behind the first two colons in a row. -/
def cutAtGap? : List Char → Option (List Char × List Char)
  | ':' :: ':' :: rest => some ([], rest)
  | character :: rest =>
    (cutAtGap? rest).map fun (before, behind) => (character :: before, behind)
  | [] => none

/-- Eight groups. Two colons in a row stand for at least one group of zeros. -/
def eightGroups? (text : List Char) : Option (List UInt16) :=
  match cutAtGap? text with
  | none => match groups? text with
    | some groups => if groups.length = 8 then some groups else none
    | none => none
  | some (before, behind) => match plainGroups? before, groups? behind with
    | some front, some back =>
      if front.length + back.length ≤ 7 then
        some (front ++ List.replicate (8 - (front.length + back.length)) 0 ++ back)
      else none
    | _, _ => none

/-- Reads an address. -/
def read? (text : String) : Option IpAddress :=
  match bytes? text.toList with
  | some bytes => some (.v4 bytes)
  | none => (eightGroups? text.toList).map .v6

/-- Four bytes with points between them. -/
def bytesText (bytes : List UInt8) : List Char :=
  List.intercalate ['.'] (bytes.map fun byte => Numeral.digits byte.toNat)

/-- Groups with colons between them. -/
def groupsText (groups : List UInt16) : List Char :=
  List.intercalate [':'] (groups.map fun group => Hexadecimal.digits group.toNat)

/-- The place and the length of the longest run of zeros among groups from a place on, the first of
several; `best` is the longest before, and `start` and `length` are those of the run in progress. -/
def longestZeros (best : Nat × Nat) (start length place : Nat) : List UInt16 → Nat × Nat
  | [] => best
  | group :: rest =>
    if group = 0 then
      let start := if length = 0 then place else start
      let best := if best.2 < length + 1 then (start, length + 1) else best
      longestZeros best start (length + 1) (place + 1) rest
    else longestZeros best 0 0 (place + 1) rest

/-- The text of an address. The longest run of two or more zero groups is left out, and the last
two groups of an address that stands for one of version 4 are written as bytes. -/
def text : IpAddress → List Char
  | .v4 bytes => bytesText bytes
  | .v6 groups => match groups with
    | [0, 0, 0, 0, 0, 0xFFFF, high, low] =>
      ':' :: ':' :: 'f' :: 'f' :: 'f' :: 'f' :: ':' ::
        bytesText [UInt8.ofNat (high.toNat / 256), UInt8.ofNat high.toNat,
          UInt8.ofNat (low.toNat / 256), UInt8.ofNat low.toNat]
    | groups =>
      let (start, length) := longestZeros (0, 0) 0 0 0 groups
      if 1 < length then
        groupsText (groups.take start) ++ ':' :: ':' :: groupsText (groups.drop (start + length))
      else groupsText groups

end IpAddress

/-- The text of a socket address; an address of version 6 is in brackets. -/
def SocketAddress.text (socket : SocketAddress) : String :=
  let port := ':' :: Numeral.digits socket.port.toNat
  match socket.address with
  | .v4 _ => String.ofList (socket.address.text ++ port)
  | .v6 _ => String.ofList ('[' :: socket.address.text ++ ']' :: port)

end Underwriting
