import Underwriting.Number.Reading

/-!
# Command line arguments

What a command line asks for. Options follow the command and each is given once at most; a value
follows its option or an equals sign. The request for help, or for the version before a command,
counts as soon as it is reached; what is wrong before it counts first.
-/

namespace Underwriting

/-- What the service is told where it is started. -/
structure ServeOptions where
  host? : Option String
  port? : Option UInt16
deriving DecidableEq

/-- What is asked of the demonstration. -/
structure DemoOptions where
  amount? : Option Binary64
  termMonths? : Option UInt32
  ficoScore? : Option UInt16
  asJson : Bool
deriving DecidableEq

/-- A command. -/
inductive Command
  | serve (options : ServeOptions)
  | demo (options : DemoOptions)
deriving DecidableEq

/-- Why no command is carried out. -/
inductive Interruption
  | help
  | version
  | misuse
deriving DecidableEq

/-- The exit status for an interruption. -/
def Interruption.status : Interruption → UInt32
  | .help | .version => 0
  | .misuse => 2

/-- An argument by its form. Several short options may stand in one argument. -/
inductive Argument
  | value (text : String)
  | long (name : List Char) (attached? : Option String)
  | short (letters : List Char)
  | separator
deriving DecidableEq

namespace Argument

/-- The form of an argument. A single dash is a value. -/
def ofText (text : String) : Argument :=
  match text.toList with
  | ['-', '-'] => .separator
  | '-' :: '-' :: body =>
    let name := body.takeWhile (· ≠ '=')
    match body.dropWhile (· ≠ '=') with
    | [] => .long name none
    | _ :: attached => .long name (some (String.ofList attached))
  | '-' :: letter :: more => .short (letter :: more)
  | _ => .value text

end Argument

/-- An option of a command: one that is given or not, or one with a value. Setting fails if the
option was set before or the value does not suit it. -/
inductive OptionSpec (σ : Type)
  | flag (set : σ → Option σ)
  | valued (set : σ → String → Option σ)

/-- The options of a command by their names. -/
abbrev OptionTable (σ : Type) := List (String × OptionSpec σ)

/-- Reads the arguments behind a command. Nothing may follow a separator. -/
def readOptions {σ : Type} (table : OptionTable σ) (options : σ) :
    List String → Except Interruption σ
  | [] => .ok options
  | text :: rest =>
    match Argument.ofText text with
    | .value _ => .error .misuse
    | .separator => if rest.isEmpty then .ok options else .error .misuse
    | .short letters => .error (if letters.head? = some 'h' then .help else .misuse)
    | .long name attached? =>
      match table.lookup (String.ofList name), attached? with
      | none, none => .error (if String.ofList name = "help" then .help else .misuse)
      | none, some _ => .error .misuse
      | some (.flag set), none => match set options with
        | some options => readOptions table options rest
        | none => .error .misuse
      | some (.flag _), some _ => .error .misuse
      | some (.valued set), some value => match set options value with
        | some options => readOptions table options rest
        | none => .error .misuse
      | some (.valued set), none => match rest with
        | [] => .error .misuse
        | next :: rest => match Argument.ofText next with
          | .value value => match set options value with
            | some options => readOptions table options rest
            | none => .error .misuse
          | _ => .error .misuse

/-- A whole number up to a limit; zero may have a minus sign. -/
def readCount? (limit : Nat) (text : String) : Option Nat :=
  match text.toList with
  | '-' :: digits => if digits.isEmpty then none else (Numeral.value? digits).filter (· == 0)
  | characters => Numeral.read? limit characters

/-- Puts a value where there is none. -/
def fill? {α : Type} (held? value? : Option α) : Option (Option α) :=
  match held?, value? with
  | none, some value => some (some value)
  | _, _ => none

namespace ServeOptions

/-- Nothing is told. -/
def none : ServeOptions := ⟨.none, .none⟩

/-- The options of the command that starts the service. -/
def table : OptionTable ServeOptions :=
  [("host", .valued fun options text =>
      (fill? options.host? (some text)).map fun host? => { options with host? := host? }),
    ("port", .valued fun options text =>
      (fill? options.port? ((readCount? (UInt16.size - 1) text).map UInt16.ofNat)).map
        fun port? => { options with port? := port? })]

end ServeOptions

namespace DemoOptions

/-- Nothing is asked. -/
def none : DemoOptions := ⟨.none, .none, .none, false⟩

/-- The options of the command that shows a demonstration. -/
def table : OptionTable DemoOptions :=
  [("amount", .valued fun options text =>
      (fill? options.amount? (Binary64.read? text)).map
        fun amount? => { options with amount? := amount? }),
    ("term-months", .valued fun options text =>
      (fill? options.termMonths? ((readCount? (UInt32.size - 1) text).map UInt32.ofNat)).map
        fun termMonths? => { options with termMonths? := termMonths? }),
    ("fico", .valued fun options text =>
      (fill? options.ficoScore? ((readCount? (UInt16.size - 1) text).map UInt16.ofNat)).map
        fun ficoScore? => { options with ficoScore? := ficoScore? }),
    ("json", .flag fun options =>
      if options.asJson then .none else some { options with asJson := true })]

end DemoOptions

/-- The names of the commands about which help may be asked. -/
def helpTopics : List String := ["serve", "demo", "help"]

/-- Reads the topic of a request for help. -/
def readHelpTopic : List String → Interruption
  | [] => .help
  | [topic] => if helpTopics.contains topic then .help else .misuse
  | _ => .misuse

/-- Reads a command line. Without a command the service is started. -/
def Command.read : List String → Except Interruption Command
  | [] => .ok (.serve .none)
  | text :: rest =>
    match Argument.ofText text with
    | .value "serve" => (readOptions ServeOptions.table .none rest).map .serve
    | .value "demo" => (readOptions DemoOptions.table .none rest).map .demo
    | .value "help" => .error (readHelpTopic rest)
    | .value _ => .error .misuse
    | .separator => if rest.isEmpty then .ok (.serve .none) else .error .misuse
    | .short letters =>
      .error <| match letters.head? with
        | some 'h' => .help
        | some 'V' => .version
        | _ => .misuse
    | .long name none =>
      .error <| match String.ofList name with
        | "help" => .help
        | "version" => .version
        | _ => .misuse
    | .long _ (some _) => .error .misuse

end Underwriting
