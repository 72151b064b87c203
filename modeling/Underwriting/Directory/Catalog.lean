import Underwriting.Directory.Basic
import Underwriting.Register
import Underwriting.Run.Report

/-!
# The catalog

A directory held in memory: lenders, their programs, the active policies and the applications that
were filed. Only programs of active lenders are on offer. A policy is stored as authored, whatever
its defects, and is active from then on.
-/

namespace Underwriting

/-- Lenders, programs, active policies and applications. -/
structure Catalog where
  lenders : Register LenderId Lender
  programs : List LenderProgram
  policies : Register ProgramId Policy
  applications : Register LoanId Application

namespace Catalog

/-- The catalog with nothing in it. -/
def empty : Catalog := ⟨.empty, [], .empty, .empty⟩

/-- Registers a lender, in place of an earlier one of its number. -/
def addLender (catalog : Catalog) (lender : Lender) : Catalog :=
  { catalog with lenders := catalog.lenders.put lender.id lender }

/-- Registers a program behind all others, in place of an earlier one of its number. -/
def addProgram (catalog : Catalog) (program : LenderProgram) : Catalog :=
  { catalog with
    programs := (catalog.programs.filter fun existing => existing.id ≠ program.id) ++ [program] }

/-- Makes a policy the active one of its program. -/
def activatePolicy (catalog : Catalog) (policy : Policy) : Catalog :=
  { catalog with
    policies := catalog.policies.put policy.program { policy with isActive := true } }

/-- Files an application, in place of an earlier one of its number. -/
def fileApplication (catalog : Catalog) (loan : LoanId) (application : Application) : Catalog :=
  { catalog with applications := catalog.applications.put loan application }

/-- The name of a lender. -/
def lenderName? (catalog : Catalog) (lender : LenderId) : Option String :=
  (catalog.lenders.find? lender).map (·.name)

/-- The name of a program. -/
def programName? (catalog : Catalog) (program : ProgramId) : Option String :=
  (catalog.programs.find? (·.id = program)).map (·.name)

/-- The names in the catalog. -/
def names (catalog : Catalog) : NameBook := ⟨catalog.lenderName?, catalog.programName?⟩

/-- Whether the lender of a program is registered and active. -/
def hasActiveLender (catalog : Catalog) (program : LenderProgram) : Bool :=
  match catalog.lenders.find? program.lender with
  | some lender => lender.active
  | none => false

/-- The programs of active lenders that accept an amount and a term, in ascending order. -/
def eligiblePrograms (catalog : Catalog) (amount : Binary64) (termMonths : UInt32) :
    List LenderProgram :=
  (catalog.programs.filter fun program =>
      catalog.hasActiveLender program && program.accepts amount termMonths).mergeSort
    fun first second => first.id.atMost second.id

/-- The active policy of a program. -/
def activePolicy? (catalog : Catalog) (program : ProgramId) : Option Policy :=
  (catalog.policies.find? program).filter (·.isActive)

/-- The look-ups of the catalog, none of which fails. -/
def directory (catalog : Catalog) : Directory where
  application loan := .ok (catalog.applications.find? loan)
  eligiblePrograms amount termMonths := .ok (catalog.eligiblePrograms amount termMonths)
  activePolicy program := .ok (catalog.activePolicy? program)

end Catalog

end Underwriting
