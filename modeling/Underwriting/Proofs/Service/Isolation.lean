import Underwriting.Proofs.Run.Course
import Underwriting.Proofs.Service.Judgement
import Underwriting.Service.Sample

/-! # Isolation of faults

Two runs over surroundings that differ only in what they hold and do for one program end alike
everywhere else: the same status and cause of failure, the same programs in the same order, and for
every other program the same result. Crashes count as alike whatever they report, for a report may
name what is of one run only; each result then carries the report of its own crash. Whatever goes
wrong with that one program is a fault on its own result, which then says nothing else.
-/

namespace Underwriting

/-- Both attempts ended in the same way; crashes may differ in what they report. -/
inductive Attempt.Alike : Attempt → Attempt → Prop
  | same (attempt : Attempt) : Alike attempt attempt
  | crashed (report other : String) : Alike (.crashed report) (.crashed other)

/-- The results are the same, or both are of a program on which both evaluators crashed, and each
carries the report of its own crash. -/
inductive MatchResult.EqUpToReport (evaluator other : Evaluator) :
    MatchResult → MatchResult → Prop
  | same (result : MatchResult) : EqUpToReport evaluator other result result
  | crashed {program : LenderProgram} {policy : CompiledPolicy} {application : Application}
      {report further : String} :
      evaluator program policy application = .crashed report →
      other program policy application = .crashed further →
      EqUpToReport evaluator other (.faulted program (.crashed report))
        (.faulted program (.crashed further))

namespace Surroundings

/-- The surroundings differ at most in the active policy of one program, in what the evaluator does
with that program, and in what crashes report. -/
structure AgreesExcept (first : Surroundings) (excepted : ProgramId) (second : Surroundings) :
    Prop where
  application : ∀ loan, first.directory.application loan = second.directory.application loan
  eligiblePrograms : ∀ amount termMonths, first.directory.eligiblePrograms amount termMonths =
    second.directory.eligiblePrograms amount termMonths
  activePolicy : ∀ program, program ≠ excepted →
    first.directory.activePolicy program = second.directory.activePolicy program
  evaluator : ∀ program policy application, program.id ≠ excepted →
    (first.evaluator program policy application).Alike
      (second.evaluator program policy application)
  budget : first.budget = second.budget

namespace AgreesExcept

variable {first second : Surroundings} {excepted : ProgramId} {loan : LoanId}

theorem refuses (agrees : first.AgreesExcept excepted second) {cause : PreconditionError}
    (refuses : first.directory.Refuses loan cause) : second.directory.Refuses loan cause := by
  cases refuses with
  | applicationFails failed => exact .applicationFails (agrees.application loan ▸ failed)
  | applicationMissing nothing => exact .applicationMissing (agrees.application loan ▸ nothing)
  | programsFail found failed =>
    exact .programsFail (agrees.application loan ▸ found) (agrees.eligiblePrograms _ _ ▸ failed)
  | noneAccepts found listed refused =>
    exact .noneAccepts (agrees.application loan ▸ found) (agrees.eligiblePrograms _ _ ▸ listed)
      refused

theorem offers (agrees : first.AgreesExcept excepted second) {application : Application}
    {programs : List LenderProgram} (offers : first.directory.Offers loan application programs) :
    second.directory.Offers loan application programs where
  filed := agrees.application loan ▸ offers.filed
  listed := agrees.eligiblePrograms _ _ ▸ offers.listed
  accepted := offers.accepted

/-- Every other program gives the same answer, up to the report of a crash. -/
theorem answer_eqUpToReport (agrees : first.AgreesExcept excepted second)
    (application : Application) {program : LenderProgram} (other : program.id ≠ excepted) :
    (first.answer application program).EqUpToReport first.evaluator second.evaluator
      (second.answer application program) := by
  have loaded : first.directory.loadPolicy program.id = second.directory.loadPolicy program.id := by
    simp only [Directory.loadPolicy, agrees.activePolicy program.id other]
  simp only [answer, ProgramTask.result, loaded, agrees.budget]
  cases second.directory.loadPolicy program.id with
  | error error => exact .same _
  | ok policy =>
    have attempts := agrees.evaluator program policy application other
    generalize attempted : first.evaluator program policy application = attempt at attempts
    generalize reattempted : second.evaluator program policy application = again at attempts
    simp only [attempted, reattempted]
    cases attempts with
    | same => exact .same _
    | crashed => exact .crashed attempted reattempted

end AgreesExcept

end Surroundings

namespace MatchRun

/-- Two runs end alike but for the result of one program and for the reports of crashes. -/
structure EqualExcept (first : MatchRun) (excepted : ProgramId) (evaluator other : Evaluator)
    (second : MatchRun) : Prop where
  status : first.status = second.status
  failure : first.failure? = second.failure?
  programs : first.results.map (·.program) = second.results.map (·.program)
  others : List.Forall₂ (MatchResult.EqUpToReport evaluator other)
    (first.results.filter (·.program ≠ excepted)) (second.results.filter (·.program ≠ excepted))

/-- Where the evaluators do the same with the other programs and report the same, the results of the
other programs are the same. -/
theorem EqualExcept.others_eq {first second : MatchRun} {excepted : ProgramId}
    {evaluator other : Evaluator} (alike : first.EqualExcept excepted evaluator other second)
    (same : ∀ program policy application, program.id ≠ excepted →
      evaluator program policy application = other program policy application) :
    first.results.filter (·.program ≠ excepted) =
      second.results.filter (·.program ≠ excepted) := by
  obtain ⟨lengths, pairs⟩ := List.forall₂_iff_zip.mp alike.others
  rw [← List.forall₂_eq_eq_eq]
  refine List.forall₂_iff_zip.mpr ⟨lengths, fun paired => ?_⟩
  have member := (List.of_mem_zip paired).1
  cases pairs paired with
  | same => rfl
  | @crashed program policy application report further attempted reattempted =>
    have others : program.id ≠ excepted := of_decide_eq_true (List.mem_filter.mp member).2
    rw [same program policy application others, reattempted] at attempted
    rw [Attempt.crashed.inj attempted]

end MatchRun

/-- A result with a fault says nothing but the fault. -/
def MatchResult.ConfinesFault (result : MatchResult) : Prop :=
  ∀ fault, result.fault? = some fault →
    result.eligible = false ∧ result.fitScore = 0 ∧ result.reasons = [fault.message] ∧
      result.ruleResults = .none

theorem MatchResult.confinesFault_faulted (program : LenderProgram) (fault : EngineFault) :
    (faulted program fault).ConfinesFault := by
  rintro _ ⟨⟩
  exact ⟨rfl, rfl, rfl, rfl⟩

/-- Whatever goes wrong with a task, its result says nothing but the fault. -/
theorem ProgramTask.confinesFault_result {evaluator : Evaluator} (faithful : evaluator.IsFaithful)
    (task : ProgramTask) {budget : Duration} {application : Application} :
    (task.result evaluator budget application).ConfinesFault := by
  intro fault faulted
  rw [result_of_fault faithful task faulted]
  exact MatchResult.confinesFault_faulted task.program fault fault rfl

namespace Surroundings

variable {first second : Surroundings} {excepted : ProgramId} {loan : LoanId}

/-- The answers of the other programs match one by one, however long the list of programs. -/
private theorem filter_answers (agrees : first.AgreesExcept excepted second)
    (firstAnswers : first.evaluator.AnswersForProgram)
    (secondAnswers : second.evaluator.AnswersForProgram) (application : Application)
    (programs : List LenderProgram) :
    List.Forall₂ (MatchResult.EqUpToReport first.evaluator second.evaluator)
      ((programs.map (first.answer application)).filter (·.program ≠ excepted))
      ((programs.map (second.answer application)).filter (·.program ≠ excepted)) := by
  simp only [List.filter_map, Function.comp_def, answer_program firstAnswers,
    answer_program secondAnswers]
  rw [List.forall₂_map_left_iff, List.forall₂_map_right_iff, List.forall₂_same]
  intro program member
  apply agrees.answer_eqUpToReport application
  simpa using (List.mem_filter.mp member).2

/-- Concluding by the verdicts of such surroundings gives runs that end alike but for the result
of the one program and the reports of crashes. -/
theorem AgreesExcept.concluded (agrees : first.AgreesExcept excepted second)
    (firstAnswers : first.evaluator.AnswersForProgram)
    (secondAnswers : second.evaluator.AnswersForProgram) (firstRun secondRun : MatchRun)
    (firstNow secondNow : Timestamp) :
    (firstRun.concluded (first.judge loan) firstNow).EqualExcept excepted first.evaluator
      second.evaluator (secondRun.concluded (second.judge loan) secondNow) := by
  rcases first.directory.offer_cases loan with ⟨cause, refuses⟩ | ⟨application, programs, offers⟩
  · rw [judge_of_refuses refuses, judge_of_refuses (agrees.refuses refuses)]
    exact ⟨rfl, rfl, rfl, .nil⟩
  · have firstResults := results_of_offers firstAnswers offers
    have secondResults := results_of_offers secondAnswers (agrees.offers offers)
    refine ⟨?_, ?_, ?_, ?_⟩
    · simp only [MatchRun.concluded, judge_of_offers offers, judge_of_offers (agrees.offers offers),
        Verdict.status]
    · simp only [MatchRun.concluded, judge_of_offers offers, judge_of_offers (agrees.offers offers),
        Verdict.failure?]
    · simp only [MatchRun.concluded, firstResults, secondResults, List.map_map, Function.comp_def,
        answer_program firstAnswers, answer_program secondAnswers]
    · simp only [MatchRun.concluded, firstResults, secondResults]
      exact filter_answers agrees firstAnswers secondAnswers application _

variable {surroundings : Surroundings}

/-- Whatever goes wrong with a program, its result says nothing but the fault. -/
theorem confinesFault_of_mem (faithful : surroundings.evaluator.IsFaithful) {result : MatchResult}
    (member : result ∈ Verdict.results (surroundings.judge loan)) : result.ConfinesFault := by
  rcases surroundings.directory.offer_cases loan with
    ⟨cause, refuses⟩ | ⟨application, programs, offers⟩
  · rw [judge_of_refuses refuses] at member
    cases member
  · rw [results_of_offers faithful.answersForProgram offers] at member
    obtain ⟨program, -, rfl⟩ := List.mem_map.mp member
    exact ProgramTask.confinesFault_result faithful _

/-- The same surroundings, but for a program on which the evaluator crashes. -/
def crashingOn (surroundings : Surroundings) (program : ProgramId) (report : String) :
    Surroundings :=
  { surroundings with
    evaluator := fun offered policy application =>
      if offered.id = program then .crashed report
      else surroundings.evaluator offered policy application }

theorem AgreesExcept.crashingOn (agrees : first.AgreesExcept excepted second) (program : ProgramId)
    (report other : String) : (first.crashingOn program report).AgreesExcept excepted
      (second.crashingOn program other) := by
  refine ⟨agrees.application, agrees.eligiblePrograms, agrees.activePolicy, ?_, agrees.budget⟩
  intro offered policy application apart
  simp only [Surroundings.crashingOn]
  split
  · exact .crashed report other
  · exact agrees.evaluator offered policy application apart

theorem isFaithful_crashingOn (faithful : surroundings.evaluator.IsFaithful) (program : ProgramId)
    (report : String) : (surroundings.crashingOn program report).evaluator.IsFaithful := by
  intro offered policy application result finished
  simp only [crashingOn] at finished
  split at finished
  · cases finished
  · exact faithful _ _ _ _ finished

end Surroundings

namespace Service

/-- Runs over surroundings that differ for one program only both finish, end alike but for that
program's result and the reports of crashes, and confine each fault to the result it stands on.
Where crashes report the same too, the results of the other programs are the same. -/
theorem runMatch_isolates {firstService secondService : Service} {first second : Surroundings}
    {excepted : ProgramId} (loan : LoanId) (agrees : first.AgreesExcept excepted second)
    (firstFaithful : first.evaluator.IsFaithful) (secondFaithful : second.evaluator.IsFaithful)
    (firstHealthy : first.outage = .none) (secondHealthy : second.outage = .none)
    (firstFree : firstService.HasFreeNumber) (secondFree : secondService.HasFreeNumber) :
    ∃ firstRun secondRun,
      (firstService.runMatch first loan).1 = .ok firstRun ∧
      (secondService.runMatch second loan).1 = .ok secondRun ∧
      firstRun.EqualExcept excepted first.evaluator second.evaluator secondRun ∧
      ((∀ program policy application, program.id ≠ excepted →
          first.evaluator program policy application =
            second.evaluator program policy application) →
        firstRun.results.filter (·.program ≠ excepted) =
          secondRun.results.filter (·.program ≠ excepted)) ∧
      ∀ result ∈ firstRun.results ++ secondRun.results, result.ConfinesFault := by
  have alike := @Surroundings.AgreesExcept.concluded first second excepted loan agrees
    firstFaithful.answersForProgram secondFaithful.answersForProgram
  refine ⟨_, _, runMatch_of_healthy loan firstHealthy firstFree,
    runMatch_of_healthy loan secondHealthy secondFree, alike _ _ _ _,
    (alike _ _ _ _).others_eq, ?_⟩
  intro result member
  rcases List.mem_append.mp member with member | member
  · exact Surroundings.confinesFault_of_mem firstFaithful member
  · exact Surroundings.confinesFault_of_mem secondFaithful member

/-- The sample application put to the sample catalog, with one program that takes too long. -/
def slowSample (slow : ProgramId) : Surroundings where
  directory := (Seed.filedCatalog (Seed.application 50000 36 690)).directory
  outage := .none
  evaluator program policy application :=
    if program.id = slow then .overran else Evaluator.engine program policy application
  budget := .ofMilliseconds 2000
  now := .epoch

/-- The same, with one program whose policy can not be looked up. -/
def unreachableSample (unreachable : ProgramId) : Surroundings where
  directory := DirectoryOutage.afflict ⟨none, none, [(unreachable, .notFound)], [], none⟩
    (Seed.filedCatalog (Seed.application 50000 36 690)).directory
  outage := .none
  evaluator := .engine
  budget := .ofMilliseconds 2000
  now := .epoch

theorem slowSample_agrees (excepted : ProgramId) :
    (slowSample excepted).AgreesExcept excepted (unreachableSample excepted) := by
  refine ⟨fun _ => rfl, fun _ _ => rfl, ?_, ?_, rfl⟩
  · intro program other
    simp only [slowSample, unreachableSample, DirectoryOutage.afflict, List.lookup_cons,
      beq_eq_false_iff_ne.mpr other, List.lookup_nil]
  · intro program policy application other
    simp only [slowSample, unreachableSample, other, ↓reduceIte]
    exact .same _

theorem slowSample_isFaithful (slow : ProgramId) : (slowSample slow).evaluator.IsFaithful := by
  intro program policy application result finished
  simp only [slowSample] at finished
  split at finished
  · cases finished
  · exact Evaluator.isFaithful_engine _ _ _ _ finished

/-- One program is too slow in the first run and out of reach in the second, and another one crashes
in both, each time with a report of its own. -/
theorem runMatch_isolates_sample :
    let first := (slowSample ⟨11⟩).crashingOn ⟨12⟩ "task 21 panicked"
    let second := (unreachableSample ⟨11⟩).crashingOn ⟨12⟩ "task 34 panicked"
    ∃ firstRun secondRun,
      (new.runMatch first Seed.sampleLoan).1 = .ok firstRun ∧
      (new.runMatch second Seed.sampleLoan).1 = .ok secondRun ∧
      firstRun.EqualExcept ⟨11⟩ first.evaluator second.evaluator secondRun ∧
      ∀ result ∈ firstRun.results ++ secondRun.results, result.ConfinesFault := by
  intro first second
  have agrees : first.AgreesExcept ⟨11⟩ second := (slowSample_agrees ⟨11⟩).crashingOn ⟨12⟩ _ _
  obtain ⟨firstRun, secondRun, ends, endsToo, alike, -, confined⟩ :=
    @runMatch_isolates new new first second ⟨11⟩ Seed.sampleLoan agrees
      (Surroundings.isFaithful_crashingOn (slowSample_isFaithful ⟨11⟩) _ _)
      (Surroundings.isFaithful_crashingOn Evaluator.isFaithful_engine _ _) rfl rfl rfl rfl
  exact ⟨firstRun, secondRun, ends, endsToo, alike, confined⟩

end Service

end Underwriting
