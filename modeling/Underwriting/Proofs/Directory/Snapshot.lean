import Underwriting.Proofs.Directory.Acceptance

/-! # What a snapshot of the directory holds

A run takes its application, its programs and their policies from the directory once. The relations
here say, look-up by look-up, for which cause there is no plan and for which cause a program has no
policy; making a plan and loading a policy decide them, so the first cause is the one reported.
-/

namespace Underwriting

namespace Directory

variable {directory : Directory}

/-- The directory gives no plan for an application, for this cause. -/
inductive Refuses (directory : Directory) (loan : LoanId) : PreconditionError → Prop
  | applicationFails {cause : RecordError} :
      directory.application loan = .error cause →
      Refuses directory loan (.snapshotUnavailable cause)
  | applicationMissing :
      directory.application loan = .ok none → Refuses directory loan (.unknownApplication loan)
  | programsFail {application : Application} {cause : RecordError} :
      directory.application loan = .ok (some application) →
      directory.eligiblePrograms application.loanRequest.amount application.loanRequest.termMonths =
        .error cause →
      Refuses directory loan (.snapshotUnavailable cause)
  | noneAccepts {application : Application} {programs : List LenderProgram} :
      directory.application loan = .ok (some application) →
      directory.eligiblePrograms application.loanRequest.amount application.loanRequest.termMonths =
        .ok programs →
      (∀ program ∈ programs, program.accepts application.loanRequest.amount
        application.loanRequest.termMonths = false) →
      Refuses directory loan (.noEligiblePrograms application.loanRequest.amount
        application.loanRequest.termMonths)

/-- The directory offers these programs for an application, and one of them accepts it. -/
structure Offers (directory : Directory) (loan : LoanId) (application : Application)
    (programs : List LenderProgram) : Prop where
  filed : directory.application loan = .ok (some application)
  listed : directory.eligiblePrograms application.loanRequest.amount
    application.loanRequest.termMonths = .ok programs
  accepted : ∃ program ∈ programs, program.accepts application.loanRequest.amount
    application.loanRequest.termMonths = true

/-- A program has no policy to evaluate, and this is the first thing wrong. -/
inductive LacksPolicy (directory : Directory) (program : ProgramId) : PolicyError → Prop
  | lookupFails {cause : RecordError} :
      directory.activePolicy program = .error cause →
      LacksPolicy directory program (.policyUnavailable program cause)
  | missing :
      directory.activePolicy program = .ok none →
      LacksPolicy directory program (.missingPolicy program)
  | inactive {policy : Policy} :
      directory.activePolicy program = .ok (some policy) → policy.isActive = false →
      LacksPolicy directory program (.missingPolicy program)
  | misfiled {policy : Policy} :
      directory.activePolicy program = .ok (some policy) → policy.isActive = true →
      policy.program ≠ program →
      LacksPolicy directory program (.programMismatch program policy.program)
  | defective {policy : Policy} {error : PolicyError} :
      directory.activePolicy program = .ok (some policy) → policy.isActive = true →
      policy.program = program → policy.compile = .error error →
      LacksPolicy directory program error

/-- A program has an active policy of its own that compiles. -/
structure HasPolicy (directory : Directory) (program : ProgramId) (policy : Policy)
    (compiled : CompiledPolicy) : Prop where
  found : directory.activePolicy program = .ok (some policy)
  isActive : policy.isActive = true
  own : policy.program = program
  compiles : policy.compile = .ok compiled

theorem loadPolicy_of_lacksPolicy {program : ProgramId} {error : PolicyError}
    (lacks : directory.LacksPolicy program error) :
    directory.loadPolicy program = .error error := by
  cases lacks with
  | lookupFails failed => simp only [loadPolicy, failed]
  | missing nothing => simp only [loadPolicy, nothing]
  | inactive found off => simp only [loadPolicy, found, off, Bool.not_false, ↓reduceIte]
  | misfiled found on other =>
    simp only [loadPolicy, found, on, Bool.not_true, Bool.false_eq_true, ↓reduceIte, other, ne_eq,
      not_false_eq_true]
  | defective found on own compiles =>
    simp only [loadPolicy, found, on, Bool.not_true, Bool.false_eq_true, ↓reduceIte, own, ne_eq,
      not_true_eq_false, compiles]

theorem loadPolicy_of_hasPolicy {program : ProgramId} {policy : Policy} {compiled : CompiledPolicy}
    (has : directory.HasPolicy program policy compiled) :
    directory.loadPolicy program = .ok compiled := by
  simp only [loadPolicy, has.found, has.isActive, Bool.not_true, Bool.false_eq_true, ↓reduceIte,
    has.own, ne_eq, not_true_eq_false, has.compiles]

/-- Loading a policy finds it or finds the first thing wrong with it. -/
theorem policy_cases (directory : Directory) (program : ProgramId) :
    (∃ policy compiled, directory.HasPolicy program policy compiled) ∨
      ∃ error, directory.LacksPolicy program error := by
  cases looked : directory.activePolicy program with
  | error cause => exact .inr ⟨_, .lookupFails looked⟩
  | ok found =>
    cases found with
    | none => exact .inr ⟨_, .missing looked⟩
    | some policy =>
      cases active : policy.isActive with
      | false => exact .inr ⟨_, .inactive looked active⟩
      | true =>
        by_cases own : policy.program = program
        · cases compiles : policy.compile with
          | error error => exact .inr ⟨error, .defective looked active own compiles⟩
          | ok compiled => exact .inl ⟨policy, compiled, looked, active, own, compiles⟩
        · exact .inr ⟨_, .misfiled looked active own⟩

/-- Where no policy is loaded the program lacks one, for the cause that is reported. -/
theorem lacksPolicy_of_loadPolicy {program : ProgramId} {error : PolicyError}
    (loaded : directory.loadPolicy program = .error error) :
    directory.LacksPolicy program error := by
  rcases policy_cases directory program with ⟨policy, compiled, has⟩ | ⟨cause, lacks⟩
  · rw [loadPolicy_of_hasPolicy has] at loaded
    cases loaded
  · rw [loadPolicy_of_lacksPolicy lacks, Except.error.injEq] at loaded
    exact loaded ▸ lacks

/-- The tasks that a plan makes of its programs. -/
def tasks (directory : Directory) (programs : List LenderProgram) : List ProgramTask :=
  programs.map fun program => ⟨program, directory.loadPolicy program.id⟩

/-- The plan for an application and the programs that are offered to it. -/
def plan (directory : Directory) (application : Application) (programs : List LenderProgram) :
    RunPlan :=
  ⟨application, directory.tasks (acceptingPrograms programs application.loanRequest.amount
    application.loanRequest.termMonths)⟩

theorem prepare_of_refuses {loan : LoanId} {cause : PreconditionError}
    (refuses : directory.Refuses loan cause) : directory.prepare loan = .error cause := by
  cases refuses with
  | applicationFails failed => simp only [prepare, failed]
  | applicationMissing nothing => simp only [prepare, nothing]
  | programsFail found failed => simp only [prepare, found, failed]
  | noneAccepts found listed refused =>
    simp only [prepare, found, listed,
      (acceptingPrograms_eq_nil_iff _ _ _).mpr refused]

theorem prepare_of_offers {loan : LoanId} {application : Application}
    {programs : List LenderProgram} (offers : directory.Offers loan application programs) :
    directory.prepare loan = .ok (directory.plan application programs) := by
  simp only [prepare, offers.filed, offers.listed]
  split
  · rename_i nothing
    obtain ⟨program, member, accepted⟩ := offers.accepted
    have refused := (acceptingPrograms_eq_nil_iff _ _ _).mp nothing program member
    exact absurd (accepted.symm.trans refused) Bool.noConfusion
  · rename_i first rest listed
    simp only [plan, tasks, listed]

/-- Either there is no plan, for one cause, or there is one for the programs on offer. -/
theorem offer_cases (directory : Directory) (loan : LoanId) :
    (∃ cause, directory.Refuses loan cause) ∨
      ∃ application programs, directory.Offers loan application programs := by
  cases looked : directory.application loan with
  | error cause => exact .inl ⟨_, .applicationFails looked⟩
  | ok found =>
    cases found with
    | none => exact .inl ⟨_, .applicationMissing looked⟩
    | some application =>
      cases listed : directory.eligiblePrograms application.loanRequest.amount
          application.loanRequest.termMonths with
      | error cause => exact .inl ⟨_, .programsFail looked listed⟩
      | ok programs =>
        by_cases accepted : ∃ program ∈ programs, program.accepts application.loanRequest.amount
            application.loanRequest.termMonths = true
        · exact .inr ⟨application, programs, looked, listed, accepted⟩
        · refine .inl ⟨_, .noneAccepts looked listed fun program member => ?_⟩
          exact Bool.eq_false_iff.mpr fun accepts => accepted ⟨program, member, accepts⟩

/-- An offer and a refusal exclude each other. -/
theorem Offers.not_refuses {loan : LoanId} {application : Application}
    {programs : List LenderProgram} (offers : directory.Offers loan application programs)
    {cause : PreconditionError} : ¬ directory.Refuses loan cause := by
  intro refuses
  have planned := prepare_of_offers offers
  rw [prepare_of_refuses refuses] at planned
  cases planned

theorem Refuses.unique {loan : LoanId} {first second : PreconditionError}
    (left : directory.Refuses loan first) (right : directory.Refuses loan second) :
    first = second := by
  have same := prepare_of_refuses left
  rw [prepare_of_refuses right] at same
  exact (Except.error.inj same).symm

/-- The tasks of a plan are of distinct programs, in strictly ascending order. -/
theorem ascending_plan (directory : Directory) (application : Application)
    (programs : List LenderProgram) :
    ProgramId.Ascending ((directory.plan application programs).tasks.map (·.program.id)) := by
  simp only [plan, tasks, List.map_map, Function.comp_def]
  exact ascending_acceptingPrograms _ _ _

end Directory

end Underwriting
