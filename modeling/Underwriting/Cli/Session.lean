import Underwriting.Cli.Arguments
import Underwriting.FatalError
import Underwriting.Run.Document
import Underwriting.Service.Sample

/-!
# What commands do

The commands without their effects: what the demonstration prints, and on which address the service
is to listen once its settings, its log filter and its host are in order.
-/

namespace Underwriting

/-- What is printed for an interruption. -/
def Interruption.notice : Interruption → String
  | .help | .misuse =>
    "Usage: lender-match-api [serve [--host HOST] [--port PORT]]\n" ++
    "       lender-match-api demo [--amount AMOUNT] [--term-months MONTHS] [--fico SCORE]\n" ++
    "                             [--json]\n" ++
    "       lender-match-api help [COMMAND]"
  | .version => "lender-match-api 0.1.0"

namespace ServeOptions

/-- The settings with what the command line tells instead. -/
def override (options : ServeOptions) (settings : Settings) : Settings :=
  { settings with
    listener :=
      ⟨options.host?.getD settings.listener.host, options.port?.getD settings.listener.port⟩ }

/-- The address on which the service is to listen. -/
def address (options : ServeOptions) (environment : Environment) :
    Except (Breakdown FatalError) SocketAddress :=
  match Settings.ofEnvironment environment with
  | .error error => .error (.reported (.settings error))
  | .ok settings =>
    let settings := options.override settings
    match LogFilter.choose (environment.find? "RUST_LOG") settings.logLevel with
    | .error breakdown => .error (breakdown.map .logging)
    | .ok _ => match settings.listener.address with
      | .error error => .error (.reported (.settings error))
      | .ok address => .ok address

end ServeOptions

namespace DemoOptions

/-- The run of the demonstration. -/
def run (options : DemoOptions) (now : Timestamp) : Except FatalError MatchRun :=
  match Seed.underwrite options.amount? options.termMonths? options.ficoScore? now with
  | .ok run => .ok run
  | .error error => .error (.underwriting error)

/-- What is printed of a run: its document or its report. -/
def output (options : DemoOptions) (run : MatchRun) : String :=
  if options.asJson then (run.encode .plain).indented 0 else run.report Seed.catalog.names

end DemoOptions

end Underwriting
