import Underwriting.Proofs.Directory.Snapshot
import Underwriting.Proofs.Run.Conclusion
import Underwriting.Proofs.Service.Collection

/-! # What a run finds out

The verdict on an application is refused for the cause for which there is no plan, and otherwise
consists of one result for each accepting program. With an evaluator that answers for the program
it was given, these results stand in strictly ascending order and are not empty.
-/

namespace Underwriting

namespace Evaluator

/-- The evaluator answers for the program it was given. -/
def AnswersForProgram (evaluator : Evaluator) : Prop :=
  ∀ program policy application result,
    evaluator program policy application = .finished result → result.program = program.id

/-- On each program the evaluator gives the result of the policy, crashes, or takes too long. -/
def IsFaithful (evaluator : Evaluator) : Prop :=
  ∀ program policy application result,
    evaluator program policy application = .finished result →
      result = policy.evaluate program application

theorem IsFaithful.answersForProgram {evaluator : Evaluator} (faithful : evaluator.IsFaithful) :
    evaluator.AnswersForProgram := by
  intro program policy application result finished
  rw [faithful program policy application result finished]
  rfl

theorem isFaithful_engine : engine.IsFaithful := by
  intro program policy application result finished
  exact (Attempt.finished.inj finished).symm

end Evaluator

namespace ProgramTask

variable {evaluator : Evaluator} {budget : Duration} {application : Application}

/-- A result is one of the task's own program, whatever went wrong. -/
theorem result_program (answers : evaluator.AnswersForProgram) (task : ProgramTask) :
    (task.result evaluator budget application).program = task.program.id := by
  unfold result
  split
  · rfl
  · rename_i policy _
    split
    · rename_i finished
      exact answers _ _ _ _ finished
    · rfl
    · rfl

/-- A fault stands in place of outcomes: the program is not eligible, has no score and no outcomes,
and the fault is its only reason. -/
theorem result_of_fault (faithful : evaluator.IsFaithful) (task : ProgramTask) {fault : EngineFault}
    (faulted : (task.result evaluator budget application).fault? = some fault) :
    task.result evaluator budget application = .faulted task.program fault := by
  unfold result at faulted ⊢
  cases loaded : task.policy with
  | error error =>
    simp only [loaded] at faulted ⊢
    rw [← Option.some.inj faulted]
    rfl
  | ok policy =>
    simp only [loaded] at faulted ⊢
    cases attempted : evaluator task.program policy application with
    | finished result =>
      simp only [attempted] at faulted
      rw [faithful _ _ _ _ attempted] at faulted
      cases faulted
    | crashed report =>
      simp only [attempted] at faulted ⊢
      rw [← Option.some.inj faulted]
    | overran =>
      simp only [attempted] at faulted ⊢
      rw [← Option.some.inj faulted]

/-- A task has a fault because its policy could not be loaded, or its evaluation crashed or took too
long. -/
theorem fault_cases (faithful : evaluator.IsFaithful) (task : ProgramTask) {fault : EngineFault}
    (faulted : (task.result evaluator budget application).fault? = some fault) :
    (∃ error, task.policy = .error error ∧ fault = .ofPolicyError error) ∨
      (∃ report, fault = .crashed report) ∨ fault = .timeout budget := by
  unfold result at faulted
  cases loaded : task.policy with
  | error error =>
    simp only [loaded] at faulted
    exact .inl ⟨error, rfl, (Option.some.inj faulted).symm⟩
  | ok policy =>
    simp only [loaded] at faulted
    cases attempted : evaluator task.program policy application with
    | finished result =>
      simp only [attempted] at faulted
      rw [faithful _ _ _ _ attempted] at faulted
      cases faulted
    | crashed report =>
      simp only [attempted] at faulted
      exact .inr (.inl ⟨report, (Option.some.inj faulted).symm⟩)
    | overran =>
      simp only [attempted] at faulted
      exact .inr (.inr (Option.some.inj faulted).symm)

end ProgramTask

namespace Surroundings

variable {surroundings : Surroundings} {loan : LoanId}

/-- What a program answers to an application. -/
def answer (surroundings : Surroundings) (application : Application) (program : LenderProgram) :
    MatchResult :=
  ProgramTask.result ⟨program, surroundings.directory.loadPolicy program.id⟩ surroundings.evaluator
    surroundings.budget application

theorem answer_program (answers : surroundings.evaluator.AnswersForProgram)
    (application : Application) (program : LenderProgram) :
    (surroundings.answer application program).program = program.id :=
  ProgramTask.result_program answers _

theorem judge_of_refuses {cause : PreconditionError}
    (refuses : surroundings.directory.Refuses loan cause) :
    surroundings.judge loan = .error cause := by
  simp only [judge, Directory.prepare_of_refuses refuses]

/-- The verdict on an application has one result for each accepting program. -/
theorem judge_of_offers {application : Application} {programs : List LenderProgram}
    (offers : surroundings.directory.Offers loan application programs) :
    surroundings.judge loan = .ok (MatchRun.sortResults
      ((acceptingPrograms programs application.loanRequest.amount
        application.loanRequest.termMonths).map (surroundings.answer application))) := by
  simp only [judge, Directory.prepare_of_offers offers, RunPlan.evaluate_eq, Directory.plan,
    Directory.tasks, List.map_map]
  rfl

private theorem answers_programs (answers : surroundings.evaluator.AnswersForProgram)
    (application : Application) (programs : List LenderProgram) :
    (programs.map (surroundings.answer application)).map MatchResult.program =
      programs.map (·.id) := by
  rw [List.map_map]
  exact List.map_congr_left fun program _ => answer_program answers application program

/-- With results that name their programs, the results stand in the order of the plan. -/
theorem results_of_offers (answers : surroundings.evaluator.AnswersForProgram)
    {application : Application} {programs : List LenderProgram}
    (offers : surroundings.directory.Offers loan application programs) :
    Verdict.results (surroundings.judge loan) =
      (acceptingPrograms programs application.loanRequest.amount
        application.loanRequest.termMonths).map (surroundings.answer application) := by
  have ascending := ascending_acceptingPrograms programs application.loanRequest.amount
    application.loanRequest.termMonths
  rw [← answers_programs answers application] at ascending
  have sorted := sortByProgram_of_ascending MatchResult.program ascending
  rw [judge_of_offers offers]
  simp only [Verdict.results, MatchRun.sortResults_eq, sorted]

theorem ascending_results (answers : surroundings.evaluator.AnswersForProgram) (loan : LoanId) :
    ProgramId.Ascending ((Verdict.results (surroundings.judge loan)).map (·.program)) := by
  rcases surroundings.directory.offer_cases loan with
    ⟨cause, refuses⟩ | ⟨application, programs, offers⟩
  · rw [judge_of_refuses refuses]
    exact List.Pairwise.nil
  · rw [results_of_offers answers offers, answers_programs answers]
    exact ascending_acceptingPrograms _ _ _

/-- A verdict that is not refused has results. -/
theorem results_ne_nil {results : List MatchResult}
    (judged : surroundings.judge loan = .ok results) :
    Verdict.results (surroundings.judge loan) ≠ [] := by
  rcases surroundings.directory.offer_cases loan with
    ⟨cause, refuses⟩ | ⟨application, programs, offers⟩
  · rw [judge_of_refuses refuses] at judged
    cases judged
  · obtain ⟨program, member, accepted⟩ := offers.accepted
    rw [judge_of_offers offers]
    simp only [Verdict.results, MatchRun.sortResults_eq, ne_eq, ← List.length_eq_zero_iff,
      (sortByProgram_perm _ _).length_eq, List.length_map]
    rw [List.length_eq_zero_iff, acceptingPrograms_eq_nil_iff]
    intro refused
    exact absurd (accepted.symm.trans (refused program member)) Bool.noConfusion

end Surroundings

end Underwriting
