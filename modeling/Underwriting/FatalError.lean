import Underwriting.Config.LogSelection
import Underwriting.Config.Settings
import Underwriting.Http.Message
import Underwriting.Service.Flight

/-!
# Fatal errors

What ends the program, or a request, with an error. Every fatal error has a source, whose words
follow the name of the part that failed.
-/

namespace Underwriting

/-- A part that failed, with the source of its failure. -/
inductive FatalError
  | settings (source : SettingsError)
  | logging (source : LogError)
  | io (source : String)
  | server (source : String)
  | serialization (source : String)
  | underwriting (source : ServiceError)
deriving DecidableEq

namespace FatalError

/-- The part that failed. -/
def part : FatalError → String
  | .settings _ => "configuration"
  | .logging _ => "telemetry"
  | .io _ => "io"
  | .server _ => "server"
  | .serialization _ => "serialization"
  | .underwriting _ => "underwriting"

/-- The words of the source. -/
def source : FatalError → String
  | .settings source => source.message
  | .logging source => source.message
  | .io source | .server source | .serialization source => source
  | .underwriting source => source.message

/-- The error in words. -/
def message (error : FatalError) : String := error.part ++ " error: " ++ error.source

/-- The status of the response: only a document that can not be read is the client's fault. -/
def status : FatalError → Nat
  | .serialization _ => 400
  | _ => 500

/-- The response to a request that ends with the error. -/
def response (error : FatalError) : HttpResponse := .failure error.status error.message

end FatalError

end Underwriting
