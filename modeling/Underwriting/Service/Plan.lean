import Underwriting.Directory.Basic
import Underwriting.Evaluation.Result
import Underwriting.Policy.Compiled

/-!
# The plan of a run

A run begins with a snapshot: the application, the programs that accept its amount and term, each
once and in ascending order, and for each program its compiled policy or what is wrong with it.
Without an application or a program there is no plan.
-/

namespace Underwriting

/-- Why a run has no plan. -/
inductive PreconditionError
  | unknownApplication (loan : LoanId)
  | noEligiblePrograms (amount : Binary64) (termMonths : UInt32)
  | snapshotUnavailable (cause : RecordError)
deriving DecidableEq

namespace PreconditionError

/-- The error in words. -/
def message : PreconditionError → String
  | .unknownApplication loan => "loan request " ++ loan.text ++ " not found"
  | .noEligiblePrograms amount termMonths =>
    "no lender program accepts amount " ++ amount.text ++ " over " ++
      Numeral.write termMonths.toNat ++ " months"
  | .snapshotUnavailable cause =>
    "underwriting snapshot could not be loaded: " ++ cause.message

/-- The category of the error. -/
def kind : PreconditionError → String
  | .unknownApplication _ => "unknown_application"
  | .noEligiblePrograms _ _ => "no_eligible_programs"
  | .snapshotUnavailable _ => "snapshot_unavailable"

/-- The fault with which a run fails for this cause. -/
def fault (error : PreconditionError) : EngineFault := ⟨.runPrecondition, error.message⟩

end PreconditionError

/-- A program to be evaluated, with its compiled policy or why there is none. -/
structure ProgramTask where
  program : LenderProgram
  policy : Except PolicyError CompiledPolicy

/-- What a run evaluates. -/
structure RunPlan where
  application : Application
  tasks : List ProgramTask

/-- The kept program and those that follow it, of neighbours with one number only the first. -/
def firstOfEach (kept : LenderProgram) : List LenderProgram → List LenderProgram
  | [] => [kept]
  | next :: rest =>
    if next.id = kept.id then firstOfEach kept rest else kept :: firstOfEach next rest

/-- The programs that accept an amount and a term, in ascending order and each once: of several
with one number, the one that is listed first. -/
def acceptingPrograms (programs : List LenderProgram) (amount : Binary64) (termMonths : UInt32) :
    List LenderProgram :=
  match (programs.filter fun program => program.accepts amount termMonths).mergeSort
      fun first second => first.id.atMost second.id with
  | [] => []
  | first :: rest => firstOfEach first rest

namespace Directory

/-- The compiled policy of a program: it can be looked up, is active, belongs to the program and
has no defect. -/
def loadPolicy (directory : Directory) (program : ProgramId) : Except PolicyError CompiledPolicy :=
  match directory.activePolicy program with
  | .error cause => .error (.policyUnavailable program cause)
  | .ok none => .error (.missingPolicy program)
  | .ok (some policy) =>
    if !policy.isActive then .error (.missingPolicy program)
    else if policy.program ≠ program then .error (.programMismatch program policy.program)
    else policy.compile

/-- The plan for an application. -/
def prepare (directory : Directory) (loan : LoanId) : Except PreconditionError RunPlan :=
  match directory.application loan with
  | .error cause => .error (.snapshotUnavailable cause)
  | .ok none => .error (.unknownApplication loan)
  | .ok (some application) =>
    let amount := application.loanRequest.amount
    let termMonths := application.loanRequest.termMonths
    match directory.eligiblePrograms amount termMonths with
    | .error cause => .error (.snapshotUnavailable cause)
    | .ok programs =>
      match acceptingPrograms programs amount termMonths with
      | [] => .error (.noEligiblePrograms amount termMonths)
      | first :: rest =>
        .ok ⟨application,
          (first :: rest).map fun program => ⟨program, directory.loadPolicy program.id⟩⟩

end Directory

end Underwriting
