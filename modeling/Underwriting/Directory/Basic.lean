import Underwriting.Application.Basic
import Underwriting.Policy.Basic
import Underwriting.Program.Basic
import Underwriting.RecordError

/-!
# Directories

What a run needs to look up: applications, the programs on offer for an amount and a term, and the
active policies of programs. Any look-up may fail, and some may be made to.
-/

namespace Underwriting

/-- The look-ups of a run. -/
structure Directory where
  application : LoanId → Except RecordError (Option Application)
  eligiblePrograms : Binary64 → UInt32 → Except RecordError (List LenderProgram)
  activePolicy : ProgramId → Except RecordError (Option Policy)

/-- Look-ups that fail or give set answers. -/
structure DirectoryOutage where
  application? : Option RecordError
  programs? : Option RecordError
  policies : List (ProgramId × RecordError)
  policyOverrides : List (ProgramId × Policy)
  programOverride? : Option (List LenderProgram)

namespace DirectoryOutage

/-- All look-ups work. -/
def none : DirectoryOutage := ⟨.none, .none, [], [], .none⟩

/-- The directory under an outage. A failure comes before a set answer. -/
def afflict (outage : DirectoryOutage) (directory : Directory) : Directory where
  application loan := match outage.application? with
    | some error => .error error
    | .none => directory.application loan
  eligiblePrograms amount termMonths := match outage.programs?, outage.programOverride? with
    | some error, _ => .error error
    | .none, some programs => .ok programs
    | .none, .none => directory.eligiblePrograms amount termMonths
  activePolicy program := match outage.policies.lookup program with
    | some error => .error error
    | .none => match outage.policyOverrides.lookup program with
      | some policy => .ok (some policy)
      | .none => directory.activePolicy program

end DirectoryOutage

end Underwriting
