import Underwriting.Text.Slice

/-!
# Request targets

What a request names: a path, perhaps with a query and a fragment behind it. The scheme and the
authority of a host may stand in front of the path, or an authority may stand alone. Of all this
only the path matters here, and the rest is checked for its form.
-/

namespace Underwriting

/-- What is kept of the authority of a host while it is read: the colons and whether there was a
percent sign, both counted since the last closing bracket or at sign, and which brackets were
there. -/
structure AuthorityReading where
  colons : Nat
  hasPercent : Bool
  isOpened : Bool
  isClosed : Bool
deriving DecidableEq

namespace AuthorityReading

/-- Nothing was read. -/
def start : AuthorityReading := ⟨0, false, false, false⟩

/-- The most colons in a row of groups; a port may stand behind the last of them. -/
def maxColons : Nat := 8

/-- The characters of an authority, besides letters and digits, that may stand anywhere. -/
def marks : List Char :=
  ['!', '$', '&', '\'', '(', ')', '*', '+', ',', '-', '.', ';', '=', '_', '~']

/-- One character more; nothing if it cannot stand there. Brackets are opened and closed once. -/
def step (character : Char) (reading : AuthorityReading) : Option AuthorityReading :=
  if character = ':' then
    if reading.colons < maxColons then some { reading with colons := reading.colons + 1 } else none
  else if character = '[' then
    if reading.hasPercent || reading.isOpened then none
    else some { reading with isOpened := true }
  else if character = ']' then
    if !reading.isOpened || reading.isClosed then none
    else some { reading with colons := 0, hasPercent := false, isClosed := true }
  else if character = '@' then some { reading with colons := 0, hasPercent := false }
  else if character = '%' then some { reading with hasPercent := true }
  else if character.isAlphanum || marks.contains character then some reading
  else none

/-- An authority may end here: behind at most the colon of a port, and with no percent sign in the
name of the host. -/
def mayEnd (reading : AuthorityReading) : Bool :=
  reading.colons ≤ 1 && !reading.hasPercent && reading.isOpened == reading.isClosed

end AuthorityReading

/-- The target of a request, by its path. The path of an authority that stands alone is empty. -/
structure RequestTarget where
  path : List Char
deriving DecidableEq

namespace RequestTarget

/-- The most bytes of a target. -/
def maxSize : Nat := 65534

/-- The most characters of a scheme. -/
def maxSchemeSize : Nat := 64

/-- A character of a path. -/
def isPathCharacter (character : Char) : Bool :=
  0x21 ≤ character.toNat && ['#', '<', '>', '?', '\x60', '\x7F'].all (· ≠ character)

/-- A character of a query. -/
def isQueryCharacter (character : Char) : Bool :=
  0x21 ≤ character.toNat && ['"', '#', '<', '>', '\x7F'].all (· ≠ character)

/-- A character of a scheme. -/
def isSchemeCharacter (character : Char) : Bool :=
  character.isAlphanum || ['+', '-', '.', '~'].contains character

/-- The authority of a host: a name with perhaps a user in front of it and a port behind it. -/
def isAuthority (text : List Char) : Bool :=
  let reading? := text.foldl
    (fun (reading? : Option AuthorityReading) character => reading?.bind (·.step character))
    (some .start)
  text.getLast? ≠ some '@' && reading?.any (·.mayEnd)

/-- A character in front of the path, the query and the fragment. -/
def isBeforePath (character : Char) : Bool := ['/', '?', '#'].all (· ≠ character)

/-- A character in front of the query and the fragment. -/
def isBeforeQuery (character : Char) : Bool := ['?', '#'].all (· ≠ character)

/-- The query at the front of a text. -/
def query : List Char → List Char
  | '?' :: rest => rest.takeWhile (· ≠ '#')
  | _ => []

/-- A path with perhaps a query and a fragment behind it. An empty path stands for the root, and
any text may be a fragment. -/
def ofPath? (text : List Char) : Option RequestTarget :=
  let path := text.takeWhile isBeforeQuery
  if path.all isPathCharacter && (query (text.dropWhile isBeforeQuery)).all isQueryCharacter then
    some ⟨if path.isEmpty then ['/'] else path⟩
  else none

/-- A target behind its scheme: an authority, and a path with what follows it. -/
def ofHost? (text : List Char) : Option RequestTarget :=
  let authority := text.takeWhile isBeforePath
  if authority.isEmpty || !isAuthority authority then none
  else ofPath? (text.dropWhile isBeforePath)

/-- The target of a text. -/
def parse? (text : List Char) : Option RequestTarget :=
  if text.isEmpty || maxSize < byteSize text then none
  else if text = ['*'] then some ⟨text⟩
  else if text.head? = some '/' then ofPath? text
  else match text.dropWhile isSchemeCharacter with
    | ':' :: '/' :: '/' :: rest =>
      if (text.takeWhile isSchemeCharacter).length ≤ maxSchemeSize then ofHost? rest else none
    | _ => if isAuthority text then some ⟨[]⟩ else none

end RequestTarget

end Underwriting
