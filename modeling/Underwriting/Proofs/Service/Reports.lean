import Underwriting.Proofs.Documents.RoundTrip
import Underwriting.Proofs.Run.Listing
import Underwriting.Proofs.Service.Completion
import Underwriting.Proofs.Service.Provenance

/-! # Reports of the service

The report of a run lists each result once if no eligible result has a fault. That holds of whatever
the service makes of a run with an evaluator that applies the policies, however these read, and
crashes or takes too long where it will: of every record of a history, and of every run of the pool,
even one in which tasks are lost.
-/

namespace Underwriting

theorem MatchResult.ConfinesFault.apart {result : MatchResult} (confined : result.ConfinesFault)
    (eligible : result.eligible = true) : result.fault? = none := by
  cases faulted : result.fault? with
  | none => rfl
  | some fault => exact nomatch (confined fault faulted).1.symm.trans eligible

namespace World

variable {evaluator : Evaluator}

/-- The results of every record of a history confine their faults. -/
theorem confinesFaults_replay (catalog : Catalog) (faithful : evaluator.IsFaithful)
    (budget : Duration) {events : List Event} (keep : ∀ event ∈ events, event.KeepsFaith)
    {id : RunId} {run : MatchRun}
    (found : ((opened catalog evaluator budget).replay events).service.runs.find? id = some run) :
    ∀ result ∈ run.results, result.ConfinesFault :=
  results_replay (fun _ faithful _ _ => Surroundings.confinesFault_of_mem faithful) catalog
    faithful budget keep found

end World

namespace Pool

variable {evaluator : Evaluator} {limits : Limits} {plan : RunPlan} {steps : List PoolStep}
  {pool : Pool}

/-- The results of every run of the pool confine their faults, whichever tasks have delivered. -/
theorem confinesFaults_replay (faithful : evaluator.IsFaithful)
    (replayed : (ofPlan limits plan).replay? steps = some pool)
    (follows : (ofPlan limits plan).Follows evaluator plan.application steps) :
    ∀ result ∈ pool.results, result.ConfinesFault := by
  have collects := (collects_ofPlan evaluator limits plan).replay replayed follows
  rw [collects.results, gather_eq collects.distinct, MatchRun.sortResults_eq]
  intro result member
  rw [(sortByProgram_perm _ _).mem_iff] at member
  obtain ⟨⟨program, place⟩, -, rfl⟩ := List.mem_map.mp member
  cases arrived : pool.arrivals.lookup place with
  | none =>
    simp only [arrived, Option.getD_none]
    exact MatchResult.confinesFault_faulted program .lost
  | some delivered =>
    have arrival := (lookup_eq_some_iff_of_distinct collects.distinct).mp arrived
    obtain ⟨pooled, -, -, same⟩ := collects.joined _ arrival
    simp only [arrived, Option.getD_some]
    rw [show delivered = _ from same]
    exact ProgramTask.confinesFault_result faithful pooled.task

end Pool

namespace Service

/-- Every run that has not failed and keeps its faults apart is reported with each result once.
Every record of a history keeps its faults apart, whatever is edited, whatever fails and however
often the evaluator changes, and so does a run that is completed with what any run of the pool has
collected of any plan. -/
theorem reports_list_each_once :
    (∀ run : MatchRun, run.status ≠ .failed → run.KeepsFaultsApart → run.ListsEachOnce) ∧
    (∀ (catalog : Catalog) (evaluator : Evaluator) (budget : Duration) (events : List Event),
      evaluator.IsFaithful → (∀ event ∈ events, event.KeepsFaith) → ∀ id run,
      ((World.opened catalog evaluator budget).replay events).service.runs.find? id = some run →
        run.KeepsFaultsApart) ∧
    ∀ (limits : Limits) (plan : RunPlan) (evaluator : Evaluator) (steps : List PoolStep)
      (pool : Pool), evaluator.IsFaithful →
      (Pool.ofPlan limits plan).replay? steps = some pool →
      (Pool.ofPlan limits plan).Follows evaluator plan.application steps →
      ∀ (run : MatchRun) (now : Timestamp), run.status.isTerminal = false →
        ∃ done, run.complete pool.results now = .ok done ∧ done.status = .complete ∧
          done.KeepsFaultsApart := by
  refine ⟨fun _ => MatchRun.listsEachOnce_of_keepsFaultsApart, ?_, ?_⟩
  · intro catalog evaluator budget events faithful keep id run found result member
    exact (World.confinesFaults_replay catalog faithful budget keep found result member).apart
  · intro limits plan evaluator steps pool faithful replayed follows run now running
    obtain ⟨done, completes, complete, ordered⟩ :=
      MatchRun.complete_of_running running pool.results now
    refine ⟨done, completes, complete, fun result member => ?_⟩
    have collected := ordered.perm.mem_iff.mp member
    exact (Pool.confinesFaults_replay faithful replayed follows result collected).apart

/-- A run whose only program takes too long, one whose policy can not be looked up, and one without
such trouble. -/
def troubledEvents : List Event :=
  [.evaluator (slowSample ⟨11⟩).evaluator, .move (.runMatch Seed.sampleLoan) .epoch,
    .evaluator .engine, .directoryOutage ⟨none, none, [(⟨11⟩, .notFound)], [], none⟩,
    .move (.runMatch Seed.sampleLoan) .epoch,
    .directoryOutage .none, .move (.runMatch Seed.sampleLoan) .epoch]

/-- The reports of three runs of a history, of which two have a fault, and of a run of the pool that
loses three of eight tasks. -/
theorem reports_list_each_once_troubled :
    let world := World.opened (.ofEdits World.steepHistory) .engine (.ofMilliseconds 2000)
    let runs := (world.replay troubledEvents).service.runs
    [1, 2, 3].map (fun id => (runs.find? ⟨id⟩).map fun run =>
        (run.status, run.results.map (·.fault?.isSome))) =
      [some (.complete, [true]), some (.complete, [true]), some (.complete, [false])] ∧
    (∀ id run, runs.find? id = some run → run.status ≠ .failed → run.ListsEachOnce) ∧
    ∃ steps pool done, (Pool.ofPlan .standard RunPlan.sample).replay? steps = some pool ∧
      pool.arrivals = RunPlan.lateArrivals ∧
      MatchRun.scribbled.complete pool.results .epoch = .ok done ∧ done.ListsEachOnce := by
  obtain ⟨lists, history, collected⟩ := reports_list_each_once
  intro world runs
  have keep : ∀ event ∈ troubledEvents, event.KeepsFaith := by
    simp only [troubledEvents, List.forall_mem_cons, Event.KeepsFaith, List.not_mem_nil, true_and,
      false_implies, implies_true, and_true]
    exact ⟨slowSample_isFaithful ⟨11⟩, Evaluator.isFaithful_engine⟩
  refine ⟨by decide +kernel, ?_, ?_⟩
  · intro id run found unfailed
    exact lists run unfailed
      (history _ _ _ troubledEvents Evaluator.isFaithful_engine keep id run found)
  · have arrived : RunPlan.lateArrivals.Subperm
        (RunPlan.sample.deliveries (slowSample ⟨11⟩).evaluator Limits.standard.budget) :=
      (List.drop_sublist _ _).subperm.trans (List.reverse_perm _).subperm
    obtain ⟨steps, pool, replayed, follows, late⟩ := Pool.exists_replay_of_subperm arrived
    obtain ⟨done, completes, complete, apart⟩ := collected .standard RunPlan.sample _ steps pool
      (slowSample_isFaithful ⟨11⟩) replayed follows MatchRun.scribbled .epoch rfl
    have unfailed : done.status ≠ .failed := by
      rw [complete]
      exact RunStatus.noConfusion
    exact ⟨steps, pool, done, replayed, late, completes, lists done unfailed apart⟩

end Service

end Underwriting
