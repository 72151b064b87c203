import Underwriting.Proofs.Service.Isolation
import Underwriting.Proofs.Service.Schedules

/-! # Results in any order of completion

The tasks of a plan end in an order that nobody controls, and some may never deliver. What is made
of the deliveries does not show the order: there is one result for each task, in the ascending order
of the programs, which is the result of the task if that was delivered and otherwise the fault of a
lost evaluation. Every run of the pool comes to such results, whatever its steps are, and there is
a run for every order of deliveries.
-/

namespace Underwriting

namespace RunPlan

variable {plan : RunPlan} {evaluator : Evaluator} {budget : Duration}

/-- The results of a plan of which the tasks at these places deliver, and no others. -/
def collected (plan : RunPlan) (evaluator : Evaluator) (budget : Duration) (delivered : List Nat) :
    List MatchResult :=
  plan.tasks.zipIdx.map fun (task, place) =>
    if place ∈ delivered then task.result evaluator budget plan.application
    else .faulted task.program .lost

/-- The tasks are of distinct programs in ascending order. -/
def IsOrdered (plan : RunPlan) : Prop := ProgramId.Ascending (plan.tasks.map (·.program.id))

theorem isOrdered_of_prepare {directory : Directory} {loan : LoanId}
    (prepared : directory.prepare loan = .ok plan) : plan.IsOrdered := by
  rcases directory.offer_cases loan with ⟨cause, refuses⟩ | ⟨application, programs, offers⟩
  · rw [Directory.prepare_of_refuses refuses] at prepared
    cases prepared
  · rw [Directory.prepare_of_offers offers] at prepared
    rw [← Except.ok.inj prepared]
    exact directory.ascending_plan application programs

/-- There is one result for each task, and it names the task's program. -/
theorem map_program_collected (answers : evaluator.AnswersForProgram) (delivered : List Nat) :
    (plan.collected evaluator budget delivered).map (·.program) =
      plan.tasks.map (·.program.id) := by
  refine List.ext_getElem? fun place => ?_
  simp only [collected, List.getElem?_map, List.getElem?_zipIdx, Option.map_map]
  refine congrArg (fun view => Option.map view plan.tasks[place]?) (funext fun task => ?_)
  dsimp only [Function.comp]
  split
  · exact ProgramTask.result_program answers task
  · rfl

/-- Of what arrives, the place of a task has the result of the task or nothing. -/
theorem lookup_of_subperm {arrivals : List (Nat × MatchResult)}
    (arrived : arrivals.Subperm (plan.deliveries evaluator budget)) {place : Nat}
    {task : ProgramTask} (planned : plan.tasks[place]? = some task) :
    arrivals.lookup place = if place ∈ arrivals.map (·.1)
      then some (task.result evaluator budget plan.application) else none := by
  have distinct := distinct_of_subperm arrived
  split
  case isTrue present =>
    obtain ⟨arrival, member, rfl⟩ := List.mem_map.mp present
    have delivered := (lookup_eq_some_iff_of_distinct
      (plan.distinct_deliveries evaluator budget)).mpr (arrived.subset member)
    rw [plan.lookup_deliveries evaluator budget planned] at delivered
    rw [delivered]
    exact (lookup_eq_some_iff_of_distinct distinct).mpr member
  case isFalse absent =>
    refine Option.eq_none_iff_forall_ne_some.mpr fun result found => absent ?_
    exact List.mem_map.mpr ⟨_, (lookup_eq_some_iff_of_distinct distinct).mp found, rfl⟩

/-- What is gathered from deliveries depends on which tasks delivered and on nothing else. -/
theorem gather_of_subperm (ordered : plan.IsOrdered) (answers : evaluator.AnswersForProgram)
    {arrivals : List (Nat × MatchResult)}
    (arrived : arrivals.Subperm (plan.deliveries evaluator budget)) :
    gather (plan.tasks.map (·.program)) arrivals =
      plan.collected evaluator budget (arrivals.map (·.1)) := by
  have distinct := distinct_of_subperm arrived
  have unsorted : ((plan.tasks.map (·.program)).zipIdx.map fun entry =>
      (arrivals.lookup entry.2).getD (.faulted entry.1 .lost)) =
        plan.collected evaluator budget (arrivals.map (·.1)) := by
    refine List.ext_getElem? fun place => ?_
    simp only [collected, List.getElem?_map, List.getElem?_zipIdx, Option.map_map]
    cases planned : plan.tasks[place]? with
    | none => rfl
    | some task =>
      simp only [Option.map_some, Function.comp_def, Nat.zero_add,
        lookup_of_subperm arrived planned]
      split <;> rfl
  have ascending : ProgramId.Ascending
      ((plan.collected evaluator budget (arrivals.map (·.1))).map (·.program)) := by
    rw [map_program_collected answers]
    exact ordered
  have sorted := sortByProgram_of_ascending MatchResult.program ascending
  rw [← MatchRun.sortResults_eq, ← unsorted] at sorted
  rw [← unsorted]
  exact (gather_eq distinct).trans sorted

/-- The results of a plan are the same for every order in which its tasks deliver, and show which of
them did: one result for each task, in ascending order, which is that of the task if the task
delivered, and else the fault of a lost evaluation. Every run of the pool has such results, and the
orders in which runs deliver are all those of any of the tasks. -/
theorem gather_independent_of_order {directory : Directory} {loan : LoanId}
    (prepared : directory.prepare loan = .ok plan) (answers : evaluator.AnswersForProgram)
    (limits : Limits) :
    (∀ arrivals, arrivals.Subperm (plan.deliveries evaluator limits.budget) →
      gather (plan.tasks.map (·.program)) arrivals =
        plan.collected evaluator limits.budget (arrivals.map (·.1)) ∧
      ∀ reordered, arrivals.Perm reordered →
        gather (plan.tasks.map (·.program)) reordered =
          gather (plan.tasks.map (·.program)) arrivals) ∧
    (∀ delivered, (plan.collected evaluator limits.budget delivered).map (·.program) =
      plan.tasks.map (·.program.id)) ∧
    ProgramId.Ascending (plan.tasks.map (·.program.id)) ∧
    (∀ steps pool, (Pool.ofPlan limits plan).replay? steps = some pool →
      (Pool.ofPlan limits plan).Follows evaluator plan.application steps →
      pool.results = plan.collected evaluator limits.budget (pool.arrivals.map (·.1))) ∧
    ∀ arrivals,
      (∃ steps pool, (Pool.ofPlan limits plan).replay? steps = some pool ∧
        (Pool.ofPlan limits plan).Follows evaluator plan.application steps ∧
        pool.arrivals = arrivals) ↔
      arrivals.Subperm (plan.deliveries evaluator limits.budget) := by
  have ordered := isOrdered_of_prepare prepared
  have collects {steps : List PoolStep} {pool : Pool}
      (replayed : (Pool.ofPlan limits plan).replay? steps = some pool)
      (follows : (Pool.ofPlan limits plan).Follows evaluator plan.application steps) :=
    (Pool.collects_ofPlan evaluator limits plan).replay replayed follows
  refine ⟨fun arrivals arrived => ⟨gather_of_subperm ordered answers arrived, ?_⟩,
    map_program_collected answers, ordered, fun steps pool replayed follows => ?_,
    fun arrivals => ⟨?_, Pool.exists_replay_of_subperm⟩⟩
  · intro reordered same
    have also := same.symm.subperm.trans arrived
    rw [gather_of_subperm ordered answers also, gather_of_subperm ordered answers arrived]
    refine List.map_congr_left fun entry _ => ?_
    simp only [(same.map (·.1)).mem_iff]
  · have collected := collects replayed follows
    rw [collected.results, gather_of_subperm ordered answers collected.subperm]
  · rintro ⟨steps, pool, replayed, follows, rfl⟩
    exact (collects replayed follows).subperm

/-- The programs of the sample catalog that are offered to the sample application. -/
def sampleOffered : List LenderProgram :=
  Seed.catalog.programs.filter fun program =>
    Seed.catalog.hasActiveLender program && program.accepts 50000 36

private theorem ids_sampleOffered :
    sampleOffered.map (·.id) = [⟨11⟩, ⟨12⟩, ⟨21⟩, ⟨31⟩, ⟨32⟩, ⟨41⟩, ⟨42⟩, ⟨51⟩] := by
  decide +kernel

private theorem ascending_sampleOffered : ProgramId.Ascending (sampleOffered.map (·.id)) := by
  rw [ids_sampleOffered]
  unfold ProgramId.Ascending
  decide +kernel

private theorem accepts_sampleOffered :
    ∀ program ∈ sampleOffered, program.accepts 50000 36 = true := by
  intro program member
  have offered := (List.mem_filter.mp member).2
  rw [Bool.and_eq_true] at offered
  exact offered.2

/-- The plan for the sample application. -/
def sample : RunPlan :=
  ⟨Seed.application 50000 36 690, (Service.slowSample ⟨11⟩).directory.tasks sampleOffered⟩

private theorem prepare_sample :
    (Service.slowSample ⟨11⟩).directory.prepare Seed.sampleLoan = .ok sample := by
  have listed : Seed.catalog.eligiblePrograms 50000 36 = sampleOffered :=
    sortByProgram_of_ascending LenderProgram.id ascending_sampleOffered
  have some : ∃ program ∈ sampleOffered, program.accepts 50000 36 = true := by
    obtain ⟨program, member, -⟩ : ∃ program ∈ sampleOffered, program.id = ⟨11⟩ := by
      refine List.mem_map.mp ?_
      rw [ids_sampleOffered]
      exact List.mem_cons_self
    exact ⟨program, member, accepts_sampleOffered program member⟩
  have offers : (Service.slowSample ⟨11⟩).directory.Offers Seed.sampleLoan
      (Seed.application 50000 36 690) sampleOffered :=
    ⟨rfl, congrArg Except.ok listed, some⟩
  have planned := Directory.prepare_of_offers offers
  have accepting : acceptingPrograms sampleOffered 50000 36 = sampleOffered :=
    acceptingPrograms_of_ascending ascending_sampleOffered accepts_sampleOffered
  rw [planned, Directory.plan, sample]
  exact congrArg (fun offered => Except.ok (RunPlan.mk _ (Directory.tasks _ offered))) accepting

/-- Of the sample plan, whose first program takes too long, the last three tasks do not deliver,
and the others deliver in descending order. -/
def lateArrivals : List (Nat × MatchResult) :=
  (sample.deliveries (Service.slowSample ⟨11⟩).evaluator Limits.standard.budget).reverse.drop 3

theorem gather_independent_of_order_sample :
    (Service.slowSample ⟨11⟩).directory.prepare Seed.sampleLoan = .ok sample ∧
      gather (sample.tasks.map (·.program)) lateArrivals =
        sample.collected (Service.slowSample ⟨11⟩).evaluator Limits.standard.budget
          [4, 3, 2, 1, 0] ∧
      gather (sample.tasks.map (·.program)) lateArrivals.reverse =
        gather (sample.tasks.map (·.program)) lateArrivals ∧
      (sample.collected (Service.slowSample ⟨11⟩).evaluator Limits.standard.budget
          [4, 3, 2, 1, 0]).map (·.program) =
        [⟨11⟩, ⟨12⟩, ⟨21⟩, ⟨31⟩, ⟨32⟩, ⟨41⟩, ⟨42⟩, ⟨51⟩] := by
  have answers := (Service.slowSample_isFaithful ⟨11⟩).answersForProgram
  have ids : sample.tasks.map (·.program.id) =
      [⟨11⟩, ⟨12⟩, ⟨21⟩, ⟨31⟩, ⟨32⟩, ⟨41⟩, ⟨42⟩, ⟨51⟩] := by
    rw [← ids_sampleOffered, sample, Directory.tasks, List.map_map]
    rfl
  have tasks : sample.tasks.length = 8 := by
    simpa using congrArg List.length ids
  have places : lateArrivals.map (·.1) = [4, 3, 2, 1, 0] := by
    rw [lateArrivals, List.map_drop, List.map_reverse, places_deliveries, tasks]
    rfl
  have arrived : lateArrivals.Subperm
      (sample.deliveries (Service.slowSample ⟨11⟩).evaluator Limits.standard.budget) :=
    (List.drop_sublist _ _).subperm.trans (List.reverse_perm _).subperm
  obtain ⟨independent, programs, -, -, -⟩ :=
    gather_independent_of_order prepare_sample answers Limits.standard
  obtain ⟨collected, reordered⟩ := independent lateArrivals arrived
  refine ⟨prepare_sample, ?_, reordered _ (List.reverse_perm _).symm, ?_⟩
  · rw [collected, places]
  · rw [programs, ids]

end RunPlan

end Underwriting
