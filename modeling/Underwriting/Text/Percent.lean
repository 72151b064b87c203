import Underwriting.Text.Hexadecimal

/-!
# Percent-encoded text

Text in which a byte may be written as a percent sign and two hexadecimal digits. What is no such
escape stands for itself.
-/

namespace Underwriting

/-- The bytes that a percent-encoded text stands for. -/
def percentDecode : List Char → List UInt8
  | '%' :: high :: low :: rest =>
    match Hexadecimal.value? high, Hexadecimal.value? low with
    | some high, some low => UInt8.ofNat (16 * high + low) :: percentDecode rest
    | _, _ => 37 :: percentDecode (high :: low :: rest)
  | character :: rest => String.utf8EncodeChar character ++ percentDecode rest
  | [] => []

/-- The text that a percent-encoded text stands for, if its bytes are text. -/
def percentDecoded? (text : List Char) : Option String :=
  String.fromUTF8? ⟨(percentDecode text).toArray⟩

end Underwriting
