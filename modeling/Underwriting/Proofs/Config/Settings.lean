import Underwriting.Config.Settings
import Underwriting.Proofs.Config.EnvFile
import Underwriting.Proofs.Text.Numeral

/-! # Where settings come from

The value of a variable is that of the environment, or else that of the first assignment to it in
the environment file, or else a default. If the values for port, budget and concurrency are numbers
within their bounds, there are settings as the values demand them. Otherwise the first of the three
that is no such number is reported. A pool is as wide as settings ask for.
-/

namespace Underwriting

/-- The width of the pool is the number asked for exactly if a pool can be as wide. -/
theorem Limits.poolWidth_eq_iff (limits : Limits) :
    limits.poolWidth = limits.maxConcurrency ↔
      1 ≤ limits.maxConcurrency ∧ limits.maxConcurrency ≤ maxPoolWidth := by
  unfold poolWidth maxPoolWidth
  omega

namespace Settings

section Numbers

variable {least greatest : Nat} {text : String} {whole : Nat}

/-- A text that stands for a number within bounds: decimal digits, perhaps behind a plus sign. -/
structure IsNumber (least greatest : Nat) (text : String) (whole : Nat) : Prop where
  least_le : least ≤ whole
  le_greatest : whole ≤ greatest
  digits : Numeral.Denotes text.toList whole ∨
    ∃ digits, text.toList = '+' :: digits ∧ Numeral.Denotes digits whole

theorem numberWithin?_eq_some_iff :
    numberWithin? least greatest text = some whole ↔ IsNumber least greatest text whole := by
  rw [numberWithin?, Option.filter_eq_some_iff, Numeral.read?_eq_some_iff, decide_eq_true_iff]
  constructor
  · rintro ⟨⟨le_greatest, digits⟩, least_le⟩
    exact ⟨least_le, le_greatest, digits⟩
  · rintro ⟨least_le, le_greatest, digits⟩
    exact ⟨⟨le_greatest, digits⟩, least_le⟩

theorem numberWithin?_eq_none_iff :
    numberWithin? least greatest text = none ↔ ¬ ∃ whole, IsNumber least greatest text whole := by
  rw [Option.eq_none_iff_forall_ne_some, not_exists]
  exact forall_congr' fun whole => not_congr numberWithin?_eq_some_iff

end Numbers

section Values

/-- The value for the port is a number that a port can have. Values are given by the names of
variables and their defaults. -/
def GivesPort (value : String → String → String) (port : Nat) : Prop :=
  IsNumber 0 (UInt16.size - 1) (value "APP_PORT" "3000") port

/-- The value for the budget is a positive number of milliseconds in 64 bits. -/
def GivesBudget (value : String → String → String) (milliseconds : Nat) : Prop :=
  IsNumber 1 (UInt64.size - 1) (value "APP_PROGRAM_BUDGET_MS" "2000") milliseconds

/-- The value for the concurrency is a positive number, and a pool can be as wide. -/
def GivesConcurrency (value : String → String → String) (number : Nat) : Prop :=
  IsNumber 1 Limits.maxPoolWidth (value "APP_MAX_CONCURRENT_EVALUATIONS" "8") number

/-- Settings as the values of the variables demand them. -/
structure Follows (value : String → String → String) (settings : Settings) : Prop where
  deployment : settings.deployment = .ofName (value "APP_ENV" "development")
  host : settings.listener.host = value "APP_HOST" "127.0.0.1"
  port : GivesPort value settings.listener.port.toNat
  logLevel : settings.logLevel = value "APP_LOG_LEVEL" "info"
  budget : ∃ milliseconds, GivesBudget value milliseconds ∧
    settings.limits.budget = .ofMilliseconds milliseconds
  concurrency : GivesConcurrency value settings.limits.maxConcurrency

/-- The error of the first of the three values that is no such number, whatever the others are. -/
inductive FirstWrong (value : String → String → String) : SettingsError → Prop
  | port (missing : ¬ ∃ port, GivesPort value port) : FirstWrong value .invalidPort
  | budget (port : ∃ port, GivesPort value port)
      (missing : ¬ ∃ milliseconds, GivesBudget value milliseconds) :
      FirstWrong value .invalidProgramBudget
  | concurrency (port : ∃ port, GivesPort value port)
      (budget : ∃ milliseconds, GivesBudget value milliseconds)
      (missing : ¬ ∃ number, GivesConcurrency value number) :
      FirstWrong value .invalidConcurrency

/-- Values demand settings exactly if the three numbers are given. -/
theorem exists_follows_iff (value : String → String → String) :
    (∃ settings, Follows value settings) ↔ (∃ port, GivesPort value port) ∧
      (∃ milliseconds, GivesBudget value milliseconds) ∧
      ∃ number, GivesConcurrency value number := by
  constructor
  · rintro ⟨settings, follows⟩
    obtain ⟨milliseconds, budget, -⟩ := follows.budget
    exact ⟨⟨_, follows.port⟩, ⟨milliseconds, budget⟩, ⟨_, follows.concurrency⟩⟩
  · rintro ⟨⟨port, givesPort⟩, ⟨milliseconds, budget⟩, ⟨number, concurrency⟩⟩
    have fits : port < UInt16.size := Nat.lt_of_le_pred (by decide) givesPort.le_greatest
    refine ⟨⟨_, ⟨_, UInt16.ofNat port⟩, _, ⟨_, number⟩⟩, rfl, rfl, ?_, rfl,
      ⟨milliseconds, budget, rfl⟩, concurrency⟩
    rwa [UInt16.toNat_ofNat_of_lt' fits]

/-- Values demand settings, or else one of them is the first that is wrong. -/
theorem follows_or_firstWrong (value : String → String → String) :
    (∃ settings, Follows value settings) ∨ ∃ error, FirstWrong value error := by
  rw [exists_follows_iff]
  by_cases port : ∃ port, GivesPort value port
  · by_cases budget : ∃ milliseconds, GivesBudget value milliseconds
    · by_cases concurrency : ∃ number, GivesConcurrency value number
      · exact .inl ⟨port, budget, concurrency⟩
      · exact .inr ⟨_, .concurrency port budget concurrency⟩
    · exact .inr ⟨_, .budget port budget⟩
  · exact .inr ⟨_, .port port⟩

end Values

section Loading

variable {environment : Environment} {settings : Settings} {error : SettingsError}

theorem ofEnvironment_of_follows (follows : Follows environment.valueOr settings) :
    ofEnvironment environment = .ok settings := by
  obtain ⟨deployment, ⟨host, port⟩, logLevel, ⟨budget, number⟩⟩ := settings
  obtain ⟨rfl, rfl, givesPort, rfl, ⟨milliseconds, givesBudget, rfl⟩, givesNumber⟩ := follows
  simp only [ofEnvironment, numberWithin?_eq_some_iff.mpr givesPort,
    numberWithin?_eq_some_iff.mpr givesBudget, numberWithin?_eq_some_iff.mpr givesNumber,
    UInt16.ofNat_toNat]

theorem ofEnvironment_of_firstWrong (wrong : FirstWrong environment.valueOr error) :
    ofEnvironment environment = .error error := by
  cases wrong with
  | port missing => simp only [ofEnvironment, numberWithin?_eq_none_iff.mpr missing]
  | budget port missing =>
    obtain ⟨port, givesPort⟩ := port
    simp only [ofEnvironment, numberWithin?_eq_some_iff.mpr givesPort,
      numberWithin?_eq_none_iff.mpr missing]
  | concurrency port budget missing =>
    obtain ⟨port, givesPort⟩ := port
    obtain ⟨milliseconds, givesBudget⟩ := budget
    simp only [ofEnvironment, numberWithin?_eq_some_iff.mpr givesPort,
      numberWithin?_eq_some_iff.mpr givesBudget, numberWithin?_eq_none_iff.mpr missing]

theorem ofEnvironment_eq_ok_iff :
    ofEnvironment environment = .ok settings ↔ Follows environment.valueOr settings := by
  -- An error is excluded by `ofEnvironment_of_firstWrong`, so the code is not taken apart again.
  refine ⟨fun made => ?_, ofEnvironment_of_follows⟩
  rcases follows_or_firstWrong environment.valueOr with ⟨demanded, follows⟩ | ⟨error, wrong⟩
  · rw [ofEnvironment_of_follows follows, Except.ok.injEq] at made
    exact made ▸ follows
  · rw [ofEnvironment_of_firstWrong wrong] at made
    cases made

theorem ofEnvironment_eq_error_iff :
    ofEnvironment environment = .error error ↔ FirstWrong environment.valueOr error := by
  refine ⟨fun refused => ?_, ofEnvironment_of_firstWrong⟩
  rcases follows_or_firstWrong environment.valueOr with ⟨settings, follows⟩ | ⟨found, wrong⟩
  · rw [ofEnvironment_of_follows follows] at refused
    cases refused
  · rw [ofEnvironment_of_firstWrong wrong, Except.error.injEq] at refused
    exact refused ▸ wrong

/-- The value of a variable: that of the environment, or else that of the first assignment to it in
front of the first malformed line of the file, or else a default. -/
def effective (environment : Environment) (envFile? : Option String) (name default : String) :
    String :=
  ((environment.find? name).or
    (envFile?.bind fun text => (EnvFile.assignments environment text).lookup name)).getD default

/-- Settings are loaded from an environment in which the variables have their effective values. -/
theorem exists_load_eq (environment : Environment) (envFile? : Option String) :
    ∃ supplied : Environment, load environment envFile? = ofEnvironment supplied ∧
      supplied.valueOr = effective environment envFile? := by
  cases envFile? with
  | none =>
    refine ⟨environment, rfl, funext fun name => funext fun default => ?_⟩
    rw [effective, Option.bind_none, Option.or_none, Environment.valueOr]
  | some text =>
    refine ⟨EnvFile.load environment text, rfl, funext fun name => funext fun default => ?_⟩
    rw [effective, Option.bind_some, Environment.valueOr, EnvFile.find?_load]

/-- Settings are loaded exactly if the effective values for port, budget and concurrency are numbers
within their bounds, and then as the values demand them, with a pool as wide as they ask for.
Otherwise the first value that is no such number is reported. -/
theorem load_follows_first_source (environment : Environment) (envFile? : Option String) :
    let value := effective environment envFile?
    ((∃ settings, load environment envFile? = .ok settings) ↔ (∃ port, GivesPort value port) ∧
        (∃ milliseconds, GivesBudget value milliseconds) ∧
        ∃ number, GivesConcurrency value number) ∧
      (∀ error, load environment envFile? = .error error ↔ FirstWrong value error) ∧
      (∀ settings, load environment envFile? = .ok settings ↔ Follows value settings) ∧
      ∀ settings, load environment envFile? = .ok settings →
        settings.limits.poolWidth = settings.limits.maxConcurrency := by
  intro value
  obtain ⟨supplied, loaded, values⟩ := exists_load_eq environment envFile?
  have made (settings : Settings) :
      load environment envFile? = .ok settings ↔ Follows value settings := by
    rw [loaded, ofEnvironment_eq_ok_iff, values]
  refine ⟨?_, fun error => ?_, made, fun settings succeeded => ?_⟩
  · rw [← exists_follows_iff]
    exact exists_congr made
  · rw [loaded, ofEnvironment_eq_error_iff, values]
  · have within := ((made settings).mp succeeded).concurrency
    exact settings.limits.poolWidth_eq_iff.mpr ⟨within.least_le, within.le_greatest⟩

example : load .empty none = .ok ⟨.development, ⟨"127.0.0.1", 3000⟩, "info", .standard⟩ := by
  decide +kernel

/-- The budget is set twice, and the concurrency below a line that is no assignment. -/
def layeredFile : String :=
  "APP_PORT=1\nexport APP_PROGRAM_BUDGET_MS = '050'\nAPP_PROGRAM_BUDGET_MS=0\n" ++
    "APP_HOST=h$\x7bAPP_PORT\x7d\n?\nAPP_MAX_CONCURRENT_EVALUATIONS=0"

/-- A file with two wrong numbers, in an order other than that in which they are reported. -/
def wrongFile : String := "APP_MAX_CONCURRENT_EVALUATIONS=0\nAPP_PORT=\nAPP_PORT=80"

/-- The port of the environment counts, also where the file refers to it, and the concurrency is the
default. An empty value is no number, and the port is reported first. -/
theorem load_follows_first_source_layered :
    let environment := Environment.ofList [("APP_PORT", "+80"), ("APP_LOG_LEVEL", "")]
    let settings : Settings := ⟨.development, ⟨"h+80", 80⟩, "", ⟨.ofMilliseconds 50, 8⟩⟩
    load environment (some layeredFile) = .ok settings ∧
      Follows (effective environment (some layeredFile)) settings ∧
      settings.limits.poolWidth = 8 ∧
      load .empty (some wrongFile) = .error .invalidPort ∧
      FirstWrong (effective .empty (some wrongFile)) .invalidPort := by
  intro environment settings
  obtain ⟨-, -, follows, width⟩ := load_follows_first_source environment (some layeredFile)
  obtain ⟨-, wrong, -⟩ := load_follows_first_source .empty (some wrongFile)
  have made : load environment (some layeredFile) = .ok settings := by decide +kernel
  have refused : load .empty (some wrongFile) = .error .invalidPort := by decide +kernel
  exact ⟨made, (follows _).mp made, width _ made, refused, (wrong _).mp refused⟩

end Loading

end Settings

end Underwriting
