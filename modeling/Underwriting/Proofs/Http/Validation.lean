import Underwriting.Http.Api
import Underwriting.Proofs.Directory.CatalogHistory
import Underwriting.Proofs.Evaluation.Outcomes
import Underwriting.Proofs.Policy.TreeShape
import Underwriting.Proofs.Service.Meaning

/-! # Checking a policy and running it

A policy can be submitted to be checked, and it can be activated and applied in runs. The two paths
share the compiler and nothing else: one counts the rules of the compiled trees, the other looks the
policy up in the catalog and lists an outcome for every rule. They agree. A policy is accepted with
so many rules exactly if the result of its program has no fault, and the number is that of the
outcomes; it is refused with a text exactly if the result is a fault that quotes the text.
-/

namespace Underwriting

section Checking

/-- A request that submits a policy to be checked: it is posted to the path for that, its body is
declared to be JSON and of a size that is read, and the document in it is the policy. -/
structure HttpRequest.Submits (request : HttpRequest) (policy : Policy) : Prop where
  posted : request.method = "POST"
  routed : Route.find? request.segments = some .validatePolicy
  declared : request.hasJson = true
  sized : request.body.utf8ByteSize ≤ maxBodySize
  document : (Policy.decode .plain).leading request.body = .ok policy

/-- The response calls a policy valid and says how many rules it has. -/
structure HttpResponse.Accepts (response : HttpResponse) (rules : Nat) : Prop where
  status : response.status = 200
  valid : response.body?.bind (·.member? "valid") = some (.bool true)
  rules : response.body?.bind (·.member? "rules") = some (.integer rules)

/-- The response calls a policy invalid and says why. -/
structure HttpResponse.Refuses (response : HttpResponse) (text : String) : Prop where
  status : response.status = 422
  valid : response.body?.bind (·.member? "valid") = some (.bool false)
  error : response.body?.bind (·.member? "error") = some (.string text)

theorem Service.answer_of_submits (service : Service) (surroundings : Surroundings) (isReady : Bool)
    {request : HttpRequest} {policy : Policy} (submits : request.Submits policy) :
    service.answer surroundings isReady request = (policy.verdict, service) := by
  have sized : ¬ maxBodySize < request.body.utf8ByteSize := Nat.not_lt.mpr submits.sized
  simp only [answer, submits.routed, submits.posted, Route.method, ↓reduceIte, answerRoute,
    HttpRequest.validatePolicy, submits.declared, Bool.not_true, Bool.false_eq_true, sized,
    submits.document]

namespace Policy

variable {policy : Policy}

theorem accepts_verdict_iff {rules : Nat} :
    policy.verdict.Accepts rules ↔
      ∃ compiled, policy.compile = .ok compiled ∧ rules = compiled.ruleCount := by
  unfold verdict
  cases policy.compile with
  | ok compiled =>
    constructor
    · rintro ⟨-, -, counted⟩
      have same : Json.integer compiled.ruleCount = .integer rules := Option.some.inj counted
      exact ⟨compiled, rfl, (Int.natCast_inj.mp (Json.integer.inj same)).symm⟩
    · rintro ⟨other, compiles, rfl⟩
      cases compiles
      exact ⟨rfl, rfl, rfl⟩
  | error error =>
    constructor
    · rintro ⟨status, -, -⟩
      cases status
    · rintro ⟨other, compiles, -⟩
      cases compiles

theorem refuses_verdict_iff {text : String} :
    policy.verdict.Refuses text ↔
      ∃ error, policy.compile = .error error ∧ text = error.message := by
  unfold verdict
  cases policy.compile with
  | ok compiled =>
    constructor
    · rintro ⟨status, -, -⟩
      cases status
    · rintro ⟨other, compiles, -⟩
      cases compiles
  | error error =>
    constructor
    · rintro ⟨-, -, named⟩
      have same : Json.string error.message = .string text := Option.some.inj named
      exact ⟨error, rfl, (Json.string.inj same).symm⟩
    · rintro ⟨other, compiles, rfl⟩
      cases compiles
      exact ⟨rfl, rfl, rfl⟩

end Policy

end Checking

section Activation

namespace Catalog

variable {catalog : Catalog} {policy : Policy}

/-- The catalog has come about by edits, and of the policies activated for the program of this one
it is the last. -/
def LastActivated (catalog : Catalog) (policy : Policy) : Prop :=
  ∃ before : Catalog, ∃ later : List CatalogEdit,
    catalog = later.foldl edit (before.activatePolicy policy) ∧
      ∀ other, .activatePolicy other ∈ later → other.program ≠ policy.program

/-- The policy activated last is the active one. -/
theorem activePolicy?_of_lastActivated (last : catalog.LastActivated policy) :
    catalog.activePolicy? policy.program = some { policy with isActive := true } := by
  obtain ⟨before, later, rfl, elsewhere⟩ := last
  have others : ∀ other ∈ later, other.slot ≠ .policy policy.program := by
    intro other member same
    cases other with
    | activatePolicy other => exact elsewhere other member (CatalogSlot.policy.inj same)
    | addLender | addProgram | fileApplication => cases same
  have held : (later.foldl edit (before.edit (.activatePolicy policy))).held?
      (.policy policy.program) = some (.activatePolicy { policy with isActive := true }) := by
    rw [held?_foldl_edit _ later others, held?_edit]
    exact if_pos rfl
  simp only [held?, Option.map_eq_some_iff, CatalogEdit.activatePolicy.injEq,
    exists_eq_right] at held
  rw [activePolicy?, ← edit, held]
  rfl

/-- Loading the policy activated last is compiling it. -/
theorem loadPolicy_of_lastActivated (last : catalog.LastActivated policy) :
    catalog.directory.loadPolicy policy.program = policy.compile := by
  have found : catalog.directory.activePolicy policy.program =
      .ok (some { policy with isActive := true }) :=
    congrArg Except.ok (activePolicy?_of_lastActivated last)
  simp only [Directory.loadPolicy, found, Bool.not_true, Bool.false_eq_true, ↓reduceIte, ne_eq,
    not_true_eq_false]
  rfl

end Catalog

end Activation

section Running

/-- The outcomes of an evaluation are as many as the rules of the policy. -/
theorem CompiledPolicy.length_outcomes_evaluate (policy : CompiledPolicy) (program : LenderProgram)
    (application : Application) :
    (policy.evaluate program application).ruleResults.hard.length +
      (policy.evaluate program application).ruleResults.soft.length = policy.ruleCount := by
  simp only [evaluate, RuleTree.outcomes_evaluate, List.length_map, RuleTree.length_flatten,
    ruleCount]

namespace Surroundings

variable {surroundings : Surroundings}

/-- A verdict has one result under the number of a program that accepts. -/
theorem exists_filter_results (answers : surroundings.evaluator.AnswersForProgram) {loan : LoanId}
    {application : Application} {programs : List LenderProgram}
    (offers : surroundings.directory.Offers loan application programs) {id : ProgramId}
    (accepted : ∃ program ∈ programs, program.id = id ∧
      program.accepts application.loanRequest.amount application.loanRequest.termMonths = true) :
    ∃ program : LenderProgram, program.id = id ∧
      (Verdict.results (surroundings.judge loan)).filter (·.program = id) =
        [surroundings.answer application program] := by
  obtain ⟨program, offered⟩ := Option.isSome_iff_exists.mp (offered?_isSome_iff.mpr accepted)
  have own : program.id = id := by
    have found := List.find?_some offered
    rw [Bool.and_eq_true, decide_eq_true_eq] at found
    exact found.1
  subst own
  have ascending := ascending_results answers loan
  rw [results_of_offers answers offers] at ascending ⊢
  have alone := filter_eq_singleton_of_ascending MatchResult.program ascending
    (List.mem_map.mpr ⟨program, (mem_acceptingPrograms_iff _ _ _).mpr offered, rfl⟩)
  rw [answer_program answers] at alone
  exact ⟨program, rfl, alone⟩

/-- A policy is accepted with so many rules exactly if its result has no fault and so many outcomes,
and it is refused with a text exactly if the result is a fault that quotes the text. -/
theorem verdict_agrees_with_answer (engine : surroundings.evaluator = .engine) {policy : Policy}
    {program : LenderProgram}
    (loaded : surroundings.directory.loadPolicy program.id = policy.compile)
    (application : Application) :
    (∀ rules, policy.verdict.Accepts rules ↔
      (surroundings.answer application program).fault? = none ∧
        rules = (surroundings.answer application program).ruleResults.hard.length +
          (surroundings.answer application program).ruleResults.soft.length) ∧
      ∀ text, policy.verdict.Refuses text ↔
        (surroundings.answer application program).fault? =
          some ⟨.policyConfiguration, "policy configuration error: " ++ text⟩ := by
  cases compiles : policy.compile with
  | ok compiled =>
    have answered : surroundings.answer application program =
        compiled.evaluate program application := by
      simp only [answer, ProgramTask.result, loaded, compiles, engine, Evaluator.engine]
    rw [answered, CompiledPolicy.length_outcomes_evaluate]
    refine ⟨fun rules => ?_, fun text => ?_⟩
    · rw [Policy.accepts_verdict_iff, compiles]
      constructor
      · rintro ⟨other, same, counted⟩
        exact ⟨rfl, Except.ok.inj same ▸ counted⟩
      · rintro ⟨-, counted⟩
        exact ⟨compiled, rfl, counted⟩
    · rw [Policy.refuses_verdict_iff, compiles]
      constructor
      · rintro ⟨error, other, -⟩
        cases other
      · intro faulted
        cases faulted
  | error error =>
    have answered : surroundings.answer application program =
        .configurationFault program error := by
      simp only [answer, ProgramTask.result, loaded, compiles]
    rw [answered]
    refine ⟨fun rules => ?_, fun text => ?_⟩
    · rw [Policy.accepts_verdict_iff, compiles]
      constructor
      · rintro ⟨compiled, other, -⟩
        cases other
      · rintro ⟨faultless, -⟩
        cases faultless
    · rw [Policy.refuses_verdict_iff, compiles]
      constructor
      · rintro ⟨other, same, rfl⟩
        rw [Except.error.inj same]
        rfl
      · intro faulted
        refine ⟨error, rfl, ?_⟩
        have quoted := congrArg EngineFault.message (Option.some.inj faulted)
        exact (String.append_right_inj _).mp quoted.symm

end Surroundings

namespace Service

/-- Checking a policy agrees with the run of an application that a program accepts, if the policy is
the last one activated for the program and the lender of the program is active. -/
theorem runMatch_agrees_with_validation (service : Service) (free : service.HasFreeNumber)
    {catalog : Catalog} {policy : Policy} (last : catalog.LastActivated policy)
    {program : LenderProgram} (listed : program ∈ catalog.programs)
    (own : program.id = policy.program) (active : catalog.hasActiveLender program = true)
    {loan : LoanId} {application : Application}
    (filed : catalog.applications.find? loan = some application)
    (accepted : program.accepts application.loanRequest.amount
      application.loanRequest.termMonths = true) (budget : Duration) (now : Timestamp) :
    ∃ run result,
      (service.runMatch ⟨catalog.directory, .none, .engine, budget, now⟩ loan).1 = .ok run ∧
      run.status = .complete ∧ run.results.filter (·.program = policy.program) = [result] ∧
      (∀ rules, policy.verdict.Accepts rules ↔ result.fault? = none ∧
        rules = result.ruleResults.hard.length + result.ruleResults.soft.length) ∧
      (∀ text, policy.verdict.Refuses text ↔
        result.fault? =
          some ⟨.policyConfiguration, "policy configuration error: " ++ text⟩) ∧
      ∀ request : HttpRequest, request.Submits policy →
        ∀ (asked : Service) (surroundings : Surroundings) (isReady : Bool),
          asked.answer surroundings isReady request = (policy.verdict, asked) := by
  let surroundings : Surroundings := ⟨catalog.directory, .none, .engine, budget, now⟩
  have onOffer : program ∈ catalog.eligiblePrograms application.loanRequest.amount
      application.loanRequest.termMonths :=
    Catalog.mem_eligiblePrograms.mpr ⟨listed, active, accepted⟩
  have offers : surroundings.directory.Offers loan application
      (catalog.eligiblePrograms application.loanRequest.amount
        application.loanRequest.termMonths) :=
    ⟨congrArg Except.ok filed, rfl, program, onOffer, accepted⟩
  obtain ⟨chosen, ofPolicy, alone⟩ := Surroundings.exists_filter_results
    Evaluator.isFaithful_engine.answersForProgram offers ⟨program, onOffer, own, accepted⟩
  have loaded : surroundings.directory.loadPolicy chosen.id = policy.compile :=
    ofPolicy ▸ Catalog.loadPolicy_of_lastActivated last
  obtain ⟨accepts, refuses⟩ :=
    Surroundings.verdict_agrees_with_answer rfl loaded application
  refine ⟨_, _, runMatch_of_healthy loan rfl free, ?_, alone, accepts, refuses, ?_⟩
  · exact congrArg Verdict.status (Surroundings.judge_of_offers offers)
  · exact fun request submits asked elsewhere isReady =>
      asked.answer_of_submits elsewhere isReady submits

/-- A request with a policy of one rule, which stands in an inner group and has its type spelled in
small letters. -/
def submission : HttpRequest where
  method := "POST"
  target := ⟨"/api/v1/policies/validate".toList⟩
  contentType? := some "application/json"
  body :=
    "\x7b\"lender_program_id\":7,\"hard_rules\":\x7b\"groups\":[\x7b\"rules\":[\x7b\"id\":\"a\"," ++
    "\"type\":\"boolean_is_true\",\"field\":\"borrower.state\"," ++
    "\"severity\":\"HARD\"\x7d]\x7d]\x7d\x7d"

/-- The policy that it submits. -/
def submitted : Policy :=
  ((Policy.decode .plain).leading submission.body).toOption.getD
    ⟨⟨0⟩, 1, false, .empty, .empty, .standard⟩

/-- The program of that policy. -/
def submittedProgram : LenderProgram := ⟨⟨7⟩, ⟨1⟩, "Standard", 10000, 500000, 24, 60⟩

/-- The program is offered under the policy, and the sample application is filed. -/
def submittedCatalog : Catalog :=
  [CatalogEdit.fileApplication Seed.sampleLoan (Seed.application 50000 36 690)].foldl Catalog.edit
    (((Catalog.empty.addLender ⟨⟨1⟩, "Apex Equipment Finance", true⟩).addProgram
      submittedProgram).activatePolicy submitted)

/-- What the document says, as far as it matters: the program, and how many rules are compiled. -/
private theorem leading_submission :
    ((Policy.decode .plain).leading submission.body).toOption.map (fun policy =>
      (policy.program, (policy.compile.map (·.ruleCount)).toOption)) = some (⟨7⟩, some 1) := by
  -- Written out as characters first: the kernel is slow at taking a long text apart.
  simp only [Decoder.leading, Source.read, submission, String.toList_append,
    String.reduceToList]
  decide +kernel

private theorem eq_ok_of_toOption {ε α : Type} {result : Except ε α} (fallback : α)
    (succeeds : result.toOption.isSome = true) : result = .ok (result.toOption.getD fallback) := by
  cases result with
  | error error => cases succeeds
  | ok value => rfl

private theorem leading_eq_submitted :
    (Policy.decode .plain).leading submission.body = .ok submitted := by
  refine eq_ok_of_toOption _ ?_
  have read := congrArg Option.isSome leading_submission
  rwa [Option.isSome_map] at read

private theorem submits_submission : submission.Submits submitted :=
  ⟨rfl, by decide +kernel, by decide +kernel, by decide +kernel, leading_eq_submitted⟩

private theorem submitted_facts :
    submitted.program = ⟨7⟩ ∧ (submitted.compile.map (·.ruleCount)).toOption = some 1 := by
  have read := leading_submission
  rw [leading_eq_submitted] at read
  exact Prod.mk.inj (Option.some.inj read)

private theorem accepts_verdict_of_toOption {policy : Policy} {rules : Nat}
    (counted : (policy.compile.map (·.ruleCount)).toOption = some rules) :
    policy.verdict.Accepts rules := by
  refine Policy.accepts_verdict_iff.mpr ?_
  cases compiles : policy.compile with
  | error error =>
    rw [compiles] at counted
    cases counted
  | ok compiled =>
    rw [compiles] at counted
    exact ⟨compiled, rfl, (Option.some.inj counted).symm⟩

theorem runMatch_agrees_with_validation_submitted :
    submittedCatalog.LastActivated submitted ∧ submission.Submits submitted ∧
      ∃ run result,
        (new.runMatch ⟨submittedCatalog.directory, .none, .engine, .ofMilliseconds 2000, .epoch⟩
          Seed.sampleLoan).1 = .ok run ∧
        run.results.filter (·.program = submitted.program) = [result] ∧ result.fault? = none ∧
        1 = result.ruleResults.hard.length + result.ruleResults.soft.length ∧
        (new.answer ⟨submittedCatalog.directory, .none, .engine, .ofMilliseconds 2000, .epoch⟩ true
          submission).1.Accepts 1 := by
  have last : submittedCatalog.LastActivated submitted :=
    ⟨_, _, rfl, fun other member => nomatch List.mem_singleton.mp member⟩
  have filed : submittedCatalog.applications.find? Seed.sampleLoan =
      some (Seed.application 50000 36 690) := rfl
  have checked : submitted.verdict.Accepts 1 := accepts_verdict_of_toOption submitted_facts.2
  have accepted : submittedProgram.accepts 50000 36 = true := by decide +kernel
  obtain ⟨run, result, ran, -, alone, accepts, -, answered⟩ :=
    runMatch_agrees_with_validation new rfl last List.mem_cons_self submitted_facts.1.symm rfl
      filed accepted (.ofMilliseconds 2000) .epoch
  obtain ⟨faultless, counted⟩ := (accepts 1).mp checked
  refine ⟨last, submits_submission, run, result, ran, alone, faultless, counted, ?_⟩
  rw [answered submission submits_submission]
  exact checked

end Service

end Running

end Underwriting
