import Underwriting.Config.EnvFile
import Underwriting.Config.IpAddress
import Underwriting.Config.Limits

/-!
# Settings

What the service is told by its environment: its stage, where it listens, what it logs and the
limits of evaluations. Every variable has a default. Of several variables that are wrong the first
in the order port, budget, concurrency is reported.
-/

namespace Underwriting

/-- What an installation is for. -/
inductive Deployment
  | development
  | test
  | production
deriving DecidableEq

/-- The deployment of a name, without regard to case or white space around it. Unknown names are
for development. -/
def Deployment.ofName (name : String) : Deployment :=
  let word := (trimmed name).map Char.toLower
  if word = "prod" ∨ word = "production" then .production
  else if word = "test" ∨ word = "ci" then .test
  else .development

/-- What is wrong with the settings. -/
inductive SettingsError
  | invalidPort
  | invalidHost
  | invalidProgramBudget
  | invalidConcurrency
deriving DecidableEq

/-- The error in words. -/
def SettingsError.message : SettingsError → String
  | .invalidPort => "APP_PORT must be a valid u16"
  | .invalidHost => "APP_HOST must parse to an IPv4 or IPv6 address"
  | .invalidProgramBudget => "APP_PROGRAM_BUDGET_MS must be a positive number of milliseconds"
  | .invalidConcurrency =>
    "APP_MAX_CONCURRENT_EVALUATIONS must be a positive integer no larger than " ++
      Numeral.write Limits.maxPoolWidth

/-- Where the service listens. -/
structure Listener where
  host : String
  port : UInt16
deriving DecidableEq

/-- The address of a listener. The host is an internet address or `localhost`. -/
def Listener.address (listener : Listener) : Except SettingsError SocketAddress :=
  if listener.host.map Char.toLower = "localhost" then .ok ⟨.loopback, listener.port⟩
  else match IpAddress.read? listener.host with
    | some address => .ok ⟨address, listener.port⟩
    | none => .error .invalidHost

/-- The settings of the service. -/
structure Settings where
  deployment : Deployment
  listener : Listener
  logLevel : String
  limits : Limits
deriving DecidableEq

namespace Settings

/-- Log lines are coloured where people read them. -/
def colouredLog (settings : Settings) : Bool := settings.deployment = .development

/-- A whole number from `least` to `greatest`. -/
def numberWithin? (least greatest : Nat) (text : String) : Option Nat :=
  (Numeral.read? greatest text.toList).filter (least ≤ ·)

/-- The settings in an environment. -/
def ofEnvironment (environment : Environment) : Except SettingsError Settings :=
  match numberWithin? 0 (UInt16.size - 1) (environment.valueOr "APP_PORT" "3000") with
  | none => .error .invalidPort
  | some port =>
    match numberWithin? 1 (UInt64.size - 1)
        (environment.valueOr "APP_PROGRAM_BUDGET_MS" "2000") with
    | none => .error .invalidProgramBudget
    | some budget =>
      match numberWithin? 1 Limits.maxPoolWidth
          (environment.valueOr "APP_MAX_CONCURRENT_EVALUATIONS" "8") with
      | none => .error .invalidConcurrency
      | some maxConcurrency =>
        .ok
          { deployment := .ofName (environment.valueOr "APP_ENV" "development")
            listener := ⟨environment.valueOr "APP_HOST" "127.0.0.1", UInt16.ofNat port⟩
            logLevel := environment.valueOr "APP_LOG_LEVEL" "info"
            limits := ⟨.ofMilliseconds budget, maxConcurrency⟩ }

/-- The settings in an environment and the environment file, if there is one. -/
def load (environment : Environment) (envFile? : Option String) : Except SettingsError Settings :=
  match envFile? with
  | some text => ofEnvironment (EnvFile.load environment text)
  | none => ofEnvironment environment

end Settings

end Underwriting
