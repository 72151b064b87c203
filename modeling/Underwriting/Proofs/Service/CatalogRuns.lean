import Underwriting.Directory.Seed
import Underwriting.Proofs.Directory.CatalogHistory
import Underwriting.Proofs.Policy.Pass
import Underwriting.Proofs.Service.Judgement
import Underwriting.Proofs.Service.Provenance

/-! # Runs over a catalog

The look-ups of a catalog are determined by the edits that made it, and they are fit for a run as
they are: what is on offer accepts, ascends and has no program twice, so the gate, the order and the
pass over neighbours that a run applies to it change nothing, and a policy is found under its own
program. A run over such a catalog therefore never has a fault that lies with the directory.
-/

namespace Underwriting

section Reflection

/-- A program is offered after a history: it is the latest registration of its number, it accepts,
and the latest registration of its lender is active. -/
structure LenderProgram.IsOffered (program : LenderProgram) (history : List CatalogEdit)
    (amount : Binary64) (termMonths : UInt32) : Prop where
  registered : (CatalogEdit.addProgram program).IsLatest history
  accepted : program.accepts amount termMonths = true
  lender : ∃ lender : Lender, (CatalogEdit.addLender lender).IsLatest history ∧
    lender.id = program.lender ∧ lender.active = true

/-- A list is fit for a run: what the run does to it before it makes a plan changes nothing. -/
structure IsPlanned (programs : List LenderProgram) (amount : Binary64) (termMonths : UInt32) :
    Prop where
  gated : (programs.filter fun program => program.accepts amount termMonths) = programs
  ordered : sortByProgram (·.id) programs = programs
  distinct : acceptingPrograms programs amount termMonths = programs

/-- The look-ups of a directory say what the latest edits of a history say. -/
structure Directory.Reflects (directory : Directory) (history : List CatalogEdit) : Prop where
  programs : ∀ amount termMonths, ∃ programs,
    directory.eligiblePrograms amount termMonths = .ok programs ∧
      ProgramId.Ascending (programs.map (·.id)) ∧
      (∀ program, program ∈ programs ↔ program.IsOffered history amount termMonths) ∧
      IsPlanned programs amount termMonths
  policy : ∀ program policy, directory.activePolicy program = .ok (some policy) ↔
    ∃ authored : Policy, (CatalogEdit.activatePolicy authored).IsLatest history ∧
      authored.program = program ∧ policy = { authored with isActive := true }
  noPolicy : ∀ program, directory.activePolicy program = .ok none ↔
    ∀ policy : Policy, .activatePolicy policy ∈ history → policy.program ≠ program
  application : ∀ loan application, directory.application loan = .ok (some application) ↔
    (CatalogEdit.fileApplication loan application).IsLatest history
  noApplication : ∀ loan, directory.application loan = .ok none ↔
    ∀ application, .fileApplication loan application ∉ history

theorem isPlanned_of_ascending {programs : List LenderProgram} {amount : Binary64}
    {termMonths : UInt32} (ascending : ProgramId.Ascending (programs.map (·.id)))
    (accepted : ∀ program ∈ programs, program.accepts amount termMonths = true) :
    IsPlanned programs amount termMonths where
  gated := List.filter_eq_self.mpr accepted
  ordered := sortByProgram_of_ascending LenderProgram.id ascending
  distinct := acceptingPrograms_of_ascending ascending accepted

namespace Catalog

variable {history : List CatalogEdit}

theorem isPlanned_eligiblePrograms (history : List CatalogEdit) (amount : Binary64)
    (termMonths : UInt32) :
    IsPlanned ((ofEdits history).eligiblePrograms amount termMonths) amount termMonths := by
  refine isPlanned_of_ascending ?_ fun program member => (mem_eligiblePrograms.mp member).2.2
  exact (hasDistinctPrograms_ofEdits history).ascending_eligiblePrograms amount termMonths

/-- The look-ups of a catalog reflect the edits that made it. -/
theorem reflects_directory_ofEdits (history : List CatalogEdit) :
    (ofEdits history).directory.Reflects history where
  programs := by
    intro amount termMonths
    refine ⟨_, rfl, (hasDistinctPrograms_ofEdits history).ascending_eligiblePrograms _ _, ?_,
      isPlanned_eligiblePrograms history amount termMonths⟩
    intro program
    rw [mem_eligiblePrograms_ofEdits_iff]
    constructor
    · rintro ⟨registered, accepted, lender⟩
      exact ⟨registered, accepted, lender⟩
    · rintro ⟨registered, accepted, lender⟩
      exact ⟨registered, accepted, lender⟩
  policy := by
    intro program policy
    rw [← find?_policies_ofEdits_iff, ← activePolicy?_ofEdits]
    exact ⟨Except.ok.inj, congrArg Except.ok⟩
  noPolicy := by
    intro program
    rw [← activePolicy?_ofEdits_eq_none_iff]
    exact ⟨Except.ok.inj, congrArg Except.ok⟩
  application := by
    intro loan application
    rw [← find?_applications_ofEdits_iff]
    exact ⟨Except.ok.inj, congrArg Except.ok⟩
  noApplication := by
    intro loan
    rw [← find?_applications_ofEdits_eq_none_iff]
    exact ⟨Except.ok.inj, congrArg Except.ok⟩

end Catalog

/-- A run over a directory that reflects a history plans for all programs that are on offer. -/
theorem Directory.Reflects.plan {directory : Directory} {history : List CatalogEdit}
    (reflects : directory.Reflects history) {loan : LoanId} {plan : RunPlan}
    (prepared : directory.prepare loan = .ok plan) :
    directory.eligiblePrograms plan.application.loanRequest.amount
      plan.application.loanRequest.termMonths = .ok (plan.tasks.map (·.program)) := by
  rcases directory.offer_cases loan with ⟨cause, refuses⟩ | ⟨application, programs, offers⟩
  · rw [prepare_of_refuses refuses] at prepared
    cases prepared
  · rw [prepare_of_offers offers, Except.ok.injEq] at prepared
    subst prepared
    obtain ⟨listed, same, -, -, planned⟩ := reflects.programs application.loanRequest.amount
      application.loanRequest.termMonths
    rw [offers.listed, Except.ok.injEq] at same
    subst same
    have untouched : (directory.tasks programs).map (·.program) = programs := by
      rw [tasks, List.map_map]
      exact List.map_id _
    simp only [Directory.plan, planned.distinct, untouched, offers.listed]

end Reflection

section Faults

/-- The error lies with the directory: it did not give the policy, or gave another program's. -/
def PolicyError.IsOfDirectory (error : PolicyError) : Prop :=
  (∃ program policyProgram, error = .programMismatch program policyProgram) ∨
    ∃ program cause, error = .policyUnavailable program cause

/-- The fault is one of a program whose policy the directory did not give. -/
def EngineFault.IsOfDirectory (fault : EngineFault) : Prop :=
  ∃ error : PolicyError, error.IsOfDirectory ∧ fault = .ofPolicyError error

namespace PolicyError

/-- The errors of the directory are told from all others by the first letter of their text. -/
theorem head_message_iff (error : PolicyError) :
    error.message.toList.head? = some 'p' ↔ error.IsOfDirectory := by
  constructor
  · intro head
    unfold message at head
    cases error with
    | programMismatch program policyProgram => exact .inl ⟨program, policyProgram, rfl⟩
    | policyUnavailable program cause => exact .inr ⟨program, cause, rfl⟩
    | _ =>
      simp only [String.toList_append, String.reduceToList, List.cons_append, List.head?_cons,
        Option.some.injEq, Char.reduceEq] at head
  · unfold message
    rintro (⟨program, policyProgram, rfl⟩ | ⟨program, cause, rfl⟩)
    · simp only [String.toList_append, String.reduceToList, List.cons_append, List.head?_cons]
    · simp only [String.toList_append, String.reduceToList, List.cons_append, List.head?_cons]

end PolicyError

namespace EngineFault

/-- A fault quotes its error in full, so it lies with the directory exactly if the error does. -/
theorem isOfDirectory_ofPolicyError_iff {error : PolicyError} :
    (ofPolicyError error).IsOfDirectory ↔ error.IsOfDirectory := by
  constructor
  · rintro ⟨other, ofDirectory, same⟩
    have texts := congrArg (fun fault => fault.message.toList) same
    simp only [ofPolicyError, String.toList_append, List.append_cancel_left_eq] at texts
    rw [← PolicyError.head_message_iff] at ofDirectory ⊢
    rw [texts, ofDirectory]
  · intro ofDirectory
    exact ⟨error, ofDirectory, rfl⟩

theorem not_isOfDirectory_crashed (report : String) : ¬ (crashed report).IsOfDirectory := by
  rintro ⟨error, -, same⟩
  have letters := congrArg (fun fault => fault.message.toList[7]?) same
  simp only [crashed, ofPolicyError, String.toList_append, String.reduceToList, List.cons_append,
    List.getElem?_cons_succ, List.getElem?_cons_zero, Option.some.injEq, Char.reduceEq] at letters

theorem not_isOfDirectory_timeout (budget : Duration) : ¬ (timeout budget).IsOfDirectory := by
  rintro ⟨error, -, same⟩
  cases congrArg EngineFault.kind same

end EngineFault

/-- What is wrong with a policy that was found never lies with the directory. -/
theorem Policy.not_isOfDirectory_of_compile {policy : Policy} {error : PolicyError}
    (stopped : policy.compile = .error error) : ¬ error.IsOfDirectory := by
  rintro (⟨program, policyProgram, rfl⟩ | ⟨program, cause, rfl⟩)
  · cases compile_eq_error_iff.mp stopped with
    | rule _ _ has =>
      cases has with
      | field _ _ has => cases has
  · cases compile_eq_error_iff.mp stopped with
    | rule _ _ has =>
      cases has with
      | field _ _ has => cases has

/-- Looking for a policy does not fail. -/
theorem Directory.Reflects.exists_activePolicy {directory : Directory} {history : List CatalogEdit}
    (reflects : directory.Reflects history) (program : ProgramId) :
    ∃ found, directory.activePolicy program = .ok found := by
  rcases CatalogEdit.latest_cases history (.policy program) with ⟨change, latest, own⟩ | absent
  · cases change with
    | activatePolicy authored =>
      refine ⟨_, (reflects.policy _ _).mpr ⟨authored, latest, ?_, rfl⟩⟩
      exact CatalogSlot.policy.inj own
    | addLender | addProgram | fileApplication => cases own
  · refine ⟨none, (reflects.noPolicy program).mpr fun policy member same => ?_⟩
    exact absent _ member (congrArg CatalogSlot.policy same)

/-- Where a program has no policy to evaluate, that never lies with the directory. -/
theorem Directory.Reflects.not_isOfDirectory {directory : Directory} {history : List CatalogEdit}
    (reflects : directory.Reflects history) {program : ProgramId} {error : PolicyError}
    (lacks : directory.LacksPolicy program error) : ¬ error.IsOfDirectory := by
  cases lacks with
  | lookupFails failed =>
    obtain ⟨found, looked⟩ := reflects.exists_activePolicy program
    rw [looked] at failed
    cases failed
  | missing | inactive =>
    rintro (⟨program, policyProgram, same⟩ | ⟨program, cause, same⟩)
    · cases same
    · cases same
  | misfiled found on other =>
    obtain ⟨authored, -, own, rfl⟩ := (reflects.policy _ _).mp found
    exact absurd own other
  | defective found on own compiles => exact Policy.not_isOfDirectory_of_compile compiles

/-- No result of a verdict has a fault that lies with the directory. -/
def Verdict.SparesDirectory (verdict : Verdict) : Prop :=
  ∀ result ∈ verdict.results, ∀ fault, result.fault? = some fault → ¬ fault.IsOfDirectory

theorem Surroundings.sparesDirectory_judge {surroundings : Surroundings}
    {history : List CatalogEdit} (reflects : surroundings.directory.Reflects history)
    (faithful : surroundings.evaluator.IsFaithful) (loan : LoanId) :
    Verdict.SparesDirectory (surroundings.judge loan) := by
  rcases surroundings.directory.offer_cases loan with
    ⟨cause, refuses⟩ | ⟨application, programs, offers⟩
  · rw [judge_of_refuses refuses]
    intro result member
    cases member
  · rw [Verdict.SparesDirectory, results_of_offers faithful.answersForProgram offers]
    intro result member fault faulted
    obtain ⟨program, -, rfl⟩ := List.mem_map.mp member
    rcases ProgramTask.fault_cases faithful _ faulted with
      ⟨error, loaded, rfl⟩ | ⟨report, rfl⟩ | rfl
    · have lacks := Directory.lacksPolicy_of_loadPolicy loaded
      rw [EngineFault.isOfDirectory_ofPolicyError_iff]
      exact reflects.not_isOfDirectory lacks
    · exact EngineFault.not_isOfDirectory_crashed report
    · exact EngineFault.not_isOfDirectory_timeout _

end Faults

namespace World

/-- The look-ups of the world are those of a catalog that edits have made, and the evaluator gives
the results of the policies. -/
structure IsSteady (world : World) : Prop where
  directory : world.directoryOutage = .none
  catalog : ∃ history, world.catalog = .ofEdits history
  evaluator : world.evaluator.IsFaithful

end World

/-- The event makes no look-up of the directory fail and puts no evaluator in place that gives other
results than those of the policies. -/
def Event.IsSteady : Event → Prop
  | .directoryOutage outage => outage = .none
  | .evaluator next => next.IsFaithful
  | .edit _ | .storeOutage _ | .move _ _ => True

namespace World

variable {world : World}

theorem isSteady_opened (history : List CatalogEdit) {evaluator : Evaluator}
    (faithful : evaluator.IsFaithful) (budget : Duration) :
    (opened (.ofEdits history) evaluator budget).IsSteady :=
  ⟨rfl, ⟨history, rfl⟩, faithful⟩

theorem IsSteady.step (steady : world.IsSteady) {event : Event} (also : event.IsSteady) :
    (world.step event).IsSteady := by
  obtain ⟨directory, ⟨history, catalog⟩, faithful⟩ := steady
  cases event with
  | edit change =>
    refine ⟨directory, ⟨history ++ [change], ?_⟩, faithful⟩
    simp only [World.step, catalog, Catalog.ofEdits, List.foldl_append, List.foldl_cons,
      List.foldl_nil]
  | directoryOutage outage => exact ⟨also, ⟨history, catalog⟩, faithful⟩
  | evaluator next => exact ⟨directory, ⟨history, catalog⟩, also⟩
  | storeOutage | move => exact ⟨directory, ⟨history, catalog⟩, faithful⟩

theorem IsSteady.sparesDirectory_verdict (steady : world.IsSteady) (loan : LoanId) :
    Verdict.SparesDirectory (world.verdict loan) := by
  obtain ⟨directory, ⟨history, catalog⟩, faithful⟩ := steady
  have reflects : (world.surroundings .epoch).directory.Reflects history := by
    rw [surroundings, directory, catalog]
    exact Catalog.reflects_directory_ofEdits history
  exact Surroundings.sparesDirectory_judge reflects faithful loan

/-- The look-ups of a catalog say what the latest of its edits say, a run over it plans for the
programs on offer as they are, and whatever is edited or done next, no record has a result with a
fault that lies with the directory. -/
theorem catalog_reflects_edits (history : List CatalogEdit) {evaluator : Evaluator}
    (faithful : evaluator.IsFaithful) (budget : Duration) {events : List Event}
    (steady : ∀ event ∈ events, event.IsSteady) :
    let catalog := Catalog.ofEdits history
    let reached := (opened catalog evaluator budget).replay events
    catalog.directory.Reflects history ∧
      (∀ loan plan, catalog.directory.prepare loan = .ok plan →
        catalog.directory.eligiblePrograms plan.application.loanRequest.amount
          plan.application.loanRequest.termMonths = .ok (plan.tasks.map (·.program))) ∧
      ∀ id run, reached.service.runs.find? id = some run → ∀ result ∈ run.results,
        ∀ fault, result.fault? = some fault → ¬ fault.IsOfDirectory := by
  intro catalog reached
  have reflects : catalog.directory.Reflects history := Catalog.reflects_directory_ofEdits history
  refine ⟨reflects, fun loan plan => reflects.plan, ?_⟩
  have spares : reached.service.ComesFrom Verdict.SparesDirectory := by
    refine (comesFrom_replay IsSteady ?_ ?_ (isSteady_opened history faithful budget)
      Service.owned_new (Service.comesFrom_new _)).2
    · intro world steady loan
      exact steady.sparesDirectory_verdict loan
    · intro world event member before
      exact before.step (steady event member)
  intro id run found result member fault faulted
  rcases spares.records id run found with isOpen | ⟨record, verdict, now, -, allowed, rfl⟩
  · rw [isOpen] at member
    cases member
  · exact allowed result member fault faulted

/-- A program moves to a second lender, whose activation comes later, and its policy is replaced by
one that was authored inactive. -/
def switchedHistory : List CatalogEdit :=
  let offer (lender : LenderId) := Seed.offer lender ⟨11⟩ "Standard A" (10000, 500000) (24, 60)
    [Seed.minFico "fico_650" 650 .hard] [] 60 []
  [.addLender ⟨⟨1⟩, "Apex Equipment Finance", true⟩,
    .addLender ⟨⟨2⟩, "Falcon Equipment Finance", false⟩,
    .addProgram (offer ⟨1⟩).program, .activatePolicy (offer ⟨1⟩).policy,
    .addProgram { (offer ⟨1⟩).program with id := ⟨7⟩ }, .addProgram (offer ⟨2⟩).program,
    .activatePolicy { (offer ⟨1⟩).policy with version := 2, isActive := false },
    .addLender ⟨⟨2⟩, "Falcon Equipment Finance", true⟩,
    .fileApplication Seed.sampleLoan (Seed.application 50000 36 690)]

/-- A run is started, the first lender becomes inactive, and the run takes its course. -/
def switchedEvents : List Event :=
  [.move (.startRun Seed.sampleLoan) .epoch,
    .edit (.addLender ⟨⟨1⟩, "Apex Equipment Finance", false⟩), .move (.advance 0) .epoch,
    .move (.advance 0) .epoch, .move (.advance 0) .epoch]

theorem catalog_reflects_edits_switched :
    let catalog := Catalog.ofEdits switchedHistory
    let reached := (opened catalog .engine (.ofMilliseconds 2000)).replay switchedEvents
    (catalog.directory.Reflects switchedHistory ∧
      (∀ loan plan, catalog.directory.prepare loan = .ok plan →
        catalog.directory.eligiblePrograms plan.application.loanRequest.amount
          plan.application.loanRequest.termMonths = .ok (plan.tasks.map (·.program))) ∧
      ∀ id run, reached.service.runs.find? id = some run → ∀ result ∈ run.results,
        ∀ fault, result.fault? = some fault → ¬ fault.IsOfDirectory) ∧
      ((catalog.activePolicy? ⟨11⟩).map fun policy => (policy.version, policy.isActive)) =
        some (2, true) ∧
      ((reached.service.runs.find? ⟨1⟩).map fun run =>
        run.results.map fun result => (result.program, result.lender, result.fault?)) =
        some [(⟨11⟩, ⟨2⟩, none)] := by
  refine ⟨?_, by decide +kernel, by decide +kernel⟩
  refine catalog_reflects_edits switchedHistory Evaluator.isFaithful_engine
    (.ofMilliseconds 2000) ?_
  simp only [switchedEvents, List.forall_mem_cons, Event.IsSteady, List.not_mem_nil, true_and,
    false_implies, implies_true]

end World

end Underwriting
