import Std.Time
import Underwriting.Cli.Session

/-!
# The program

Reads the command line, the environment and the clock, and prints what the command has to say.
Accepting connections is left to a host program; the command that starts the service checks
everything that comes before and says where to listen.
-/

namespace Underwriting

namespace Program

/-- The variables that are asked for. -/
def variableNames : List String :=
  ["APP_ENV", "APP_HOST", "APP_PORT", "APP_LOG_LEVEL", "APP_PROGRAM_BUDGET_MS",
    "APP_MAX_CONCURRENT_EVALUATIONS", "RUST_LOG"]

/-- The variables that are set. -/
def environment : IO Environment := do
  let bindings ← variableNames.filterMapM fun name => do
    return (← IO.getEnv name).map fun value => (name, value)
  return .ofList bindings

/-- The text of the environment file in the working directory. -/
def envFile? : IO (Option String) := do
  try
    return some (← IO.FS.readFile ".env")
  catch _ => return none

/-- The time of the clock. -/
def now : IO Timestamp := do
  let instant ← Std.Time.Timestamp.now
  let clock := (Std.Time.DateTime.ofTimestamp instant .UTC).toPlainDateTime
  return (Timestamp.ofLocal? clock.date.year.toInt clock.date.month.val.toNat
    clock.date.day.val.toNat clock.time.hour.val.toNat clock.time.minute.val.toNat
    clock.time.second.val.toNat clock.time.nanosecond.val.toNat 0).getD .epoch

/-- Ends with a breakdown. -/
def abort (breakdown : Breakdown FatalError) : IO UInt32 := do
  match breakdown with
  | .reported error => IO.eprintln ("application error: " ++ error.message)
  | .abandoned => IO.eprintln "abandoned: a log filter cannot be cut inside a character"
  return breakdown.status

/-- Checks what the service needs and says where it is to listen. -/
def serve (options : ServeOptions) : IO UInt32 := do
  let environment ← environment
  let environment := match ← envFile? with
    | some text => EnvFile.load environment text
    | none => environment
  match options.address environment with
  | .error breakdown => abort breakdown
  | .ok address =>
    IO.println ("lender match service is to listen on " ++ address.text)
    return 0

/-- Prints the demonstration. -/
def demo (options : DemoOptions) : IO UInt32 := do
  match options.run (← now) with
  | .error error => abort (.reported error)
  | .ok run =>
    IO.println (options.output run)
    return 0

/-- Prints why no command is carried out. -/
def interrupt (interruption : Interruption) : IO UInt32 := do
  if interruption = .misuse then IO.eprintln interruption.notice
  else IO.println interruption.notice
  return interruption.status

end Program

end Underwriting

open Underwriting in
/-- Carries out a command line. -/
def main (args : List String) : IO UInt32 :=
  match Command.read args with
  | .error interruption => Program.interrupt interruption
  | .ok (.serve options) => Program.serve options
  | .ok (.demo options) => Program.demo options
