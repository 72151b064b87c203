import Underwriting.Proofs.Documents.Plain
import Underwriting.Proofs.Evaluation.ScoreBounds
import Underwriting.Proofs.Policy.Pass
import Underwriting.Proofs.Service.Judgement
import Underwriting.Proofs.Service.Provenance

/-! # Scores are finite

A policy compiles only if its base score is finite and its deductions are finite and not negative.
The sum of the deductions of one id may still overflow, but then it is infinite and leaves a score
of zero. So the score of a compiled policy is finite, a fault has the score zero, and every record
that a service with a faithful evaluator keeps has finite scores only.
-/

namespace Underwriting

section Scores

/-- What a compiled policy says is plain. -/
theorem Policy.isPlain_evaluate {policy : Policy} {compiled : CompiledPolicy}
    (success : policy.compile = .ok compiled) (program : LenderProgram)
    (application : Application) : (compiled.evaluate program application).IsPlain := by
  have compiles := compilesTo_of_compile success
  have sound : compiled.scoring.IsSound := compiles.scoring ▸ compiles.scores
  exact (ScoringConfig.isRegular_score sound _).1.finite

theorem MatchResult.isPlain_faulted (program : LenderProgram) (fault : EngineFault) :
    (faulted program fault).IsPlain := by
  change (0 : Binary64).isFinite = true
  decide +kernel

end Scores

section Runs

/-- All results of the verdict are plain. -/
def Verdict.IsPlain (verdict : Verdict) : Prop := ∀ result ∈ verdict.results, result.IsPlain

variable {surroundings : Surroundings}

/-- A program answers with the result of a compiled policy or with a fault. -/
theorem Surroundings.isPlain_answer (faithful : surroundings.evaluator.IsFaithful)
    (application : Application) (program : LenderProgram) :
    (surroundings.answer application program).IsPlain := by
  unfold answer ProgramTask.result
  rcases surroundings.directory.policy_cases program.id with
    ⟨policy, compiled, has⟩ | ⟨error, lacks⟩
  · rw [Directory.loadPolicy_of_hasPolicy has]
    dsimp only
    cases attempted : surroundings.evaluator program compiled application with
    | finished result =>
      rw [faithful _ _ _ _ attempted]
      exact Policy.isPlain_evaluate has.compiles program application
    | crashed report => exact MatchResult.isPlain_faulted program _
    | overran => exact MatchResult.isPlain_faulted program _
  · rw [Directory.loadPolicy_of_lacksPolicy lacks]
    exact MatchResult.isPlain_faulted program _

theorem Surroundings.isPlain_judge (faithful : surroundings.evaluator.IsFaithful) (loan : LoanId) :
    Verdict.IsPlain (surroundings.judge loan) := by
  rcases surroundings.directory.offer_cases loan with
    ⟨cause, refuses⟩ | ⟨application, programs, offers⟩
  · rw [judge_of_refuses refuses]
    intro result member
    cases member
  · rw [Verdict.IsPlain, results_of_offers faithful.answersForProgram offers]
    intro result member
    obtain ⟨program, -, rfl⟩ := List.mem_map.mp member
    exact isPlain_answer faithful application program

/-- Every record of a history with faithful evaluators is plain, whatever is edited and whatever
fails. -/
theorem World.isPlain_replay (catalog : Catalog) {evaluator : Evaluator}
    (faithful : evaluator.IsFaithful) (budget : Duration) {events : List Event}
    (keep : ∀ event ∈ events, event.KeepsFaith) {id : RunId} {run : MatchRun}
    (found : ((opened catalog evaluator budget).replay events).service.runs.find? id = some run) :
    run.IsPlain :=
  results_replay (fun _ faithful => Surroundings.isPlain_judge faithful) catalog faithful budget
    keep found

end Runs

end Underwriting
