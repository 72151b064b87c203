import Underwriting.Http.MediaType
import Underwriting.Http.RequestTarget
import Underwriting.Json.Basic
import Underwriting.Text.Split

/-!
# Requests and responses

What the service is asked over HTTP and what it answers. Of a response's body only a JSON document
is of interest here.
-/

namespace Underwriting

/-- A request: its method, its target, the declared type of its body, and the body. -/
structure HttpRequest where
  method : String
  target : RequestTarget
  contentType? : Option String
  body : String

/-- A response: its status, and its body if that is a JSON document. -/
structure HttpResponse where
  status : Nat
  body? : Option Json

namespace HttpRequest

/-- A character that the value of a header may hold. -/
def isHeaderCharacter (character : Char) : Bool :=
  character = '\t' || (32 ≤ character.toNat && character.toNat ≠ 127)

/-- The request with these parts; none if the method is no token, the target no target, or the
declared type nothing that a header can hold. -/
def ofParts? (method target : String) (contentType? : Option String) (body : String) :
    Option HttpRequest :=
  match RequestTarget.parse? target.toList with
  | some target =>
    if isToken method.toList && contentType?.all (·.toList.all isHeaderCharacter) then
      some ⟨method, target, contentType?, body⟩
    else none
  | none => none

/-- The segments of the path. The text in front of the first slash is the first segment. -/
def segments (request : HttpRequest) : List (List Char) := splitOn '/' request.target.path

/-- The body is declared to be a JSON document. -/
def hasJson (request : HttpRequest) : Bool :=
  match request.contentType? with
  | some text => match MediaType.parse? text.toList with
    | some media => media.isJson
    | none => false
  | none => false

end HttpRequest

namespace HttpResponse

/-- A response with a JSON document. -/
def json (status : Nat) (body : Json) : HttpResponse := ⟨status, some body⟩

/-- A response without a JSON document. -/
def bare (status : Nat) : HttpResponse := ⟨status, none⟩

/-- A response whose document names an error. -/
def failure (status : Nat) (message : String) : HttpResponse :=
  json status (.object [("error", .string message)])

end HttpResponse

end Underwriting
