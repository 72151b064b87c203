import Mathlib.Data.List.Nodup
import Mathlib.Data.List.Perm.Subperm
import Underwriting.Proofs.ProgramOrder
import Underwriting.Service.FanIn

/-! # Collecting the results of a plan

Results are delivered into slots in any order. As long as no slot is delivered to twice, the order
leaves no trace: what a slot holds is the result delivered to its place. A plan of which every task
delivers therefore has exactly the results of its tasks, and these stand in the order of the plan
if its programs ascend.
-/

namespace Underwriting

theorem MatchRun.sortResults_eq (results : List MatchResult) :
    MatchRun.sortResults results = sortByProgram (·.program) results := rfl

section Slots

variable {arrivals : List (Nat × MatchResult)}

/-- With distinct places, what is found under a place is what arrived for it. -/
theorem lookup_eq_some_iff_of_distinct (distinct : (arrivals.map (·.1)).Nodup) {place : Nat}
    {result : MatchResult} :
    arrivals.lookup place = some result ↔ (place, result) ∈ arrivals := by
  induction arrivals with
  | nil => simp
  | cons arrival rest ih =>
    obtain ⟨first, delivered⟩ := arrival
    obtain ⟨fresh, others⟩ := List.nodup_cons.mp distinct
    rw [List.lookup_cons, List.mem_cons, Prod.mk.injEq]
    by_cases same : place = first
    · subst same
      have absent : (place, result) ∉ rest := fun later =>
        fresh (List.mem_map.mpr ⟨_, later, rfl⟩)
      simp only [BEq.rfl, Option.some.injEq, true_and, absent, or_false, eq_comm]
    · simp only [beq_eq_false_iff_ne.mpr same, same, false_and, false_or]
      exact ih others

/-- A slot holds what arrived for its place, or else what it held before. -/
theorem getElem?_fillSlots (slots : List (Option MatchResult))
    (distinct : (arrivals.map (·.1)).Nodup) (place : Nat) :
    (fillSlots slots arrivals)[place]? =
      slots[place]?.map fun held => (arrivals.lookup place).or held := by
  induction arrivals generalizing slots with
  | nil => simp [fillSlots]
  | cons arrival rest ih =>
    obtain ⟨first, delivered⟩ := arrival
    obtain ⟨fresh, others⟩ := List.nodup_cons.mp distinct
    have filled := ih (slots.set first (some delivered)) others
    simp only [fillSlots, List.foldl_cons] at filled ⊢
    rw [filled, List.getElem?_set, List.lookup_cons]
    by_cases same : place = first
    · subst same
      have absent : rest.lookup place = none := by
        refine Option.eq_none_iff_forall_ne_some.mpr fun result found => fresh ?_
        exact List.mem_map.mpr ⟨_, (lookup_eq_some_iff_of_distinct others).mp found, rfl⟩
      by_cases inRange : place < slots.length
      · simp [inRange, absent]
      · simp [inRange]
    · simp only [beq_eq_false_iff_ne.mpr same, Ne.symm same, ↓reduceIte]

end Slots

/-- Each program's result is what arrived for its place, or the fault of a lost evaluation. -/
theorem gather_eq {programs : List LenderProgram} {arrivals : List (Nat × MatchResult)}
    (distinct : (arrivals.map (·.1)).Nodup) :
    gather programs arrivals =
      MatchRun.sortResults (programs.zipIdx.map fun (program, place) =>
        (arrivals.lookup place).getD (.faulted program .lost)) := by
  refine congrArg MatchRun.sortResults (List.ext_getElem? fun place => ?_)
  rw [List.getElem?_zipWith, getElem?_fillSlots _ distinct, List.getElem?_map, List.getElem?_zipIdx]
  cases listed : programs[place]? with
  | none => rfl
  | some program =>
    have inRange := (List.getElem?_eq_some_iff.mp listed).1
    simp [inRange]

namespace RunPlan

variable (plan : RunPlan) (evaluator : Evaluator) (budget : Duration)

theorem places_deliveries :
    (plan.deliveries evaluator budget).map (·.1) = List.range plan.tasks.length := by
  simp only [deliveries, List.map_map, Function.comp_def, List.zipIdx_map_snd,
    List.range_eq_range']

theorem distinct_deliveries :
    ((plan.deliveries evaluator budget).map (·.1)).Nodup := by
  rw [places_deliveries]
  exact List.nodup_range

/-- Among the deliveries that arrive, no task has two. -/
theorem distinct_of_subperm {plan : RunPlan} {evaluator : Evaluator} {budget : Duration}
    {arrivals : List (Nat × MatchResult)}
    (arrived : arrivals.Subperm (plan.deliveries evaluator budget)) :
    (arrivals.map (·.1)).Nodup := by
  obtain ⟨chosen, reordered, kept⟩ := arrived
  have distinct := (plan.distinct_deliveries evaluator budget).sublist (kept.map (·.1))
  exact (reordered.map (·.1)).nodup_iff.mp distinct

theorem lookup_deliveries {place : Nat} {task : ProgramTask}
    (planned : plan.tasks[place]? = some task) :
    (plan.deliveries evaluator budget).lookup place =
      some (task.result evaluator budget plan.application) := by
  rw [lookup_eq_some_iff_of_distinct (plan.distinct_deliveries evaluator budget)]
  refine List.mem_map.mpr ⟨(task, place), ?_, rfl⟩
  exact List.mk_mem_zipIdx_iff_getElem?.mpr planned

/-- The results of a plan are those of its tasks. -/
theorem evaluate_eq :
    plan.evaluate evaluator budget =
      MatchRun.sortResults (plan.tasks.map (·.result evaluator budget plan.application)) := by
  rw [evaluate, gather_eq (plan.distinct_deliveries evaluator budget)]
  refine congrArg MatchRun.sortResults (List.ext_getElem? fun place => ?_)
  simp only [List.getElem?_map, List.getElem?_zipIdx]
  cases planned : plan.tasks[place]? with
  | none => rfl
  | some task => simp [plan.lookup_deliveries evaluator budget planned]

end RunPlan

end Underwriting
