import Underwriting.Directory.Seed
import Underwriting.Proofs.Run.Course
import Underwriting.Proofs.Service.Judgement

/-! # What a run means

A run that is opened and evaluated says exactly what the directory says about the application. It
fails for the first cause for which there is nothing to evaluate. Otherwise it is complete and has
one result for each accepting program, in strictly ascending order: the evaluation of the program's
policy, or a fault that names the first thing wrong with the policy. The list of programs may come
in any order, with repetitions and with programs out of range, and each look-up may fail.
-/

namespace Underwriting

namespace Directory

/-- The answer of a program to an application, by what the directory holds as its policy. -/
inductive Answers (directory : Directory) (application : Application) (program : LenderProgram) :
    MatchResult → Prop
  | evaluated {policy : Policy} {compiled : CompiledPolicy} :
      directory.HasPolicy program.id policy compiled →
      Answers directory application program (compiled.evaluate program application)
  | faulted {error : PolicyError} :
      directory.LacksPolicy program.id error →
      Answers directory application program (.configurationFault program error)

end Directory

namespace MatchRun

/-- The run has no results, and a precondition fault names the cause. -/
structure FailedFor (run : MatchRun) (cause : PreconditionError) : Prop where
  status : run.status = .failed
  results : run.results = []
  failure : run.failure? = some ⟨.runPrecondition, cause.message⟩

/-- The run has the answers of exactly the programs that accept an application. -/
structure CompleteFor (run : MatchRun) (directory : Directory) (application : Application)
    (programs : List LenderProgram) : Prop where
  status : run.status = .complete
  failure : run.failure? = none
  ascending : ProgramId.Ascending (run.results.map (·.program))
  ids : ∀ id, id ∈ run.results.map (·.program) ↔
    ∃ program ∈ programs, program.id = id ∧ program.accepts application.loanRequest.amount
      application.loanRequest.termMonths = true
  answers : ∀ result ∈ run.results, ∃ program,
    offered? programs application.loanRequest.amount application.loanRequest.termMonths
      result.program = some program ∧ directory.Answers application program result

/-- The run says what a directory says about a loan. -/
structure Reports (run : MatchRun) (directory : Directory) (loan : LoanId) : Prop where
  failed_iff : run.status = .failed ↔ ∃ cause, directory.Refuses loan cause
  failed : ∀ cause, directory.Refuses loan cause → run.FailedFor cause
  complete : run.status ≠ .failed → ∃ application programs,
    directory.Offers loan application programs ∧ run.CompleteFor directory application programs

end MatchRun

namespace Surroundings

variable {surroundings : Surroundings}

/-- The engine answers with the evaluation of the policy or with the first thing wrong with it. -/
theorem answers_answer (engine : surroundings.evaluator = .engine) (application : Application)
    (program : LenderProgram) :
    surroundings.directory.Answers application program
      (surroundings.answer application program) := by
  rcases surroundings.directory.policy_cases program.id with
    ⟨policy, compiled, has⟩ | ⟨error, lacks⟩
  · simp only [answer, ProgramTask.result, Directory.loadPolicy_of_hasPolicy has, engine,
      Evaluator.engine]
    exact .evaluated has
  · simp only [answer, ProgramTask.result, Directory.loadPolicy_of_lacksPolicy lacks]
    exact .faulted lacks

variable {loan : LoanId} (run : MatchRun) (now : Timestamp)

theorem failedFor_concluded {cause : PreconditionError}
    (refuses : surroundings.directory.Refuses loan cause) :
    (run.concluded (surroundings.judge loan) now).FailedFor cause := by
  rw [judge_of_refuses refuses]
  exact ⟨rfl, rfl, rfl⟩

theorem completeFor_concluded (engine : surroundings.evaluator = .engine)
    {application : Application} {programs : List LenderProgram}
    (offers : surroundings.directory.Offers loan application programs) :
    (run.concluded (surroundings.judge loan) now).CompleteFor surroundings.directory application
      programs := by
  have answersForProgram : surroundings.evaluator.AnswersForProgram := by
    rw [engine]
    exact Evaluator.isFaithful_engine.answersForProgram
  have results := results_of_offers answersForProgram offers
  refine ⟨?_, ?_, ascending_results answersForProgram loan, ?_, ?_⟩
  · simp only [MatchRun.concluded, judge_of_offers offers, Verdict.status]
  · simp only [MatchRun.concluded, judge_of_offers offers, Verdict.failure?]
  · intro id
    rw [← offered?_isSome_iff, ← find?_acceptingPrograms, List.find?_isSome]
    simp only [MatchRun.concluded, results, List.map_map, List.mem_map, Function.comp_def,
      answer_program answersForProgram, decide_eq_true_eq]
  · intro result member
    simp only [MatchRun.concluded, results] at member
    obtain ⟨program, accepting, rfl⟩ := List.mem_map.mp member
    refine ⟨program, ?_, answers_answer engine application program⟩
    rw [answer_program answersForProgram]
    exact (mem_acceptingPrograms_iff _ _ _).mp accepting

theorem reports_concluded (surroundings : Surroundings)
    (engine : surroundings.evaluator = .engine) (loan : LoanId) (run : MatchRun) (now : Timestamp) :
    (run.concluded (surroundings.judge loan) now).Reports surroundings.directory loan := by
  rcases surroundings.directory.offer_cases loan with
    ⟨cause, refuses⟩ | ⟨application, programs, offers⟩
  · have failed := failedFor_concluded run now refuses
    refine ⟨iff_of_true failed.status ⟨cause, refuses⟩, ?_, fun other => absurd failed.status other⟩
    intro other also
    exact refuses.unique also ▸ failed
  · have complete := completeFor_concluded run now engine offers
    refine ⟨iff_of_false ?_ ?_, ?_, fun _ => ⟨application, programs, offers, complete⟩⟩
    · rw [complete.status]
      exact RunStatus.noConfusion
    · exact fun ⟨cause, refuses⟩ => offers.not_refuses refuses
    · exact fun cause refuses => absurd refuses offers.not_refuses

end Surroundings

namespace Service

/-- With a store that does not fail, opening and evaluating a run returns a run that says what the
directory says about the loan. -/
theorem runMatch_reports (service : Service) (directory : Directory) (budget : Duration)
    (now : Timestamp) (loan : LoanId) (free : service.HasFreeNumber) :
    ∃ run, (service.runMatch ⟨directory, .none, .engine, budget, now⟩ loan).1 = .ok run ∧
      run.id = ⟨service.nextRun⟩ ∧ run.loan = loan ∧ run.Reports directory loan := by
  refine ⟨_, runMatch_of_healthy loan rfl free, rfl, rfl, ?_⟩
  exact Surroundings.reports_concluded ⟨directory, .none, .engine, budget, now⟩ rfl loan _ now

/-- The sample catalog with its programs listed twice: first in their order but only for small
amounts, then backwards as they are. The policy of one program can not be looked up. -/
def jumbled : Directory where
  application _ := .ok (some (Seed.application 50000 36 690))
  eligiblePrograms _ _ :=
    .ok ((Seed.catalog.programs.map fun program => { program with maxAmount := 20000 }) ++
      Seed.catalog.programs.reverse)
  activePolicy program :=
    if program = ⟨11⟩ then .error (.unavailable "offline")
    else .ok (Seed.catalog.activePolicy? program)

theorem runMatch_reports_jumbled :
    new.HasFreeNumber ∧
      ∃ run, (new.runMatch ⟨jumbled, .none, .engine, .ofMilliseconds 2000, .epoch⟩
          Seed.sampleLoan).1 = .ok run ∧
        run.id = ⟨1⟩ ∧ run.loan = Seed.sampleLoan ∧ run.Reports jumbled Seed.sampleLoan :=
  ⟨rfl, runMatch_reports new jumbled (.ofMilliseconds 2000) .epoch Seed.sampleLoan rfl⟩

end Service

end Underwriting
