import Underwriting.Proofs.Service.Collection
import Underwriting.Service.Pool

/-! # Runs of the pool

What one step of the pool can do, and what every run of it keeps. While a task has no answer, its
call ends as the evaluator ends it, and its budget expires only if the evaluator overruns it; a call
that outlives the answer of its task may end in any way. Whatever the order of the steps, a task
answers with its own result, the answer is taken at most once, and the permits play no part in it.
-/

namespace Underwriting

/-- How a call goes in which this move ends the waiting for it. -/
def TaskMove.attempt? : TaskMove → Option Attempt
  | .finish (.ok result) => some (.finished result)
  | .finish (.error report) => some (.crashed report)
  | .expire => some .overran
  | .acquire | .reject | .handOver | .start | .deliver | .join => none

/-- What the task of a program results in by how the call of the evaluator goes. -/
def Attempt.result (program : LenderProgram) (budget : Duration) : Attempt → MatchResult
  | .finished result => result
  | .crashed report => .faulted program (.crashed report)
  | .overran => .faulted program (.timeout budget)

/-- A task with a policy results in what becomes of the call of the evaluator. -/
theorem ProgramTask.result_of_policy (task : ProgramTask) {policy : CompiledPolicy}
    (loaded : task.policy = .ok policy) {evaluator : Evaluator} {budget : Duration}
    {application : Application} :
    task.result evaluator budget application =
      (evaluator task.program policy application).result task.program budget := by
  simp only [result, loaded]
  cases evaluator task.program policy application <;> rfl

namespace PooledTask

variable {budget : Duration} {evaluator : Evaluator} {application : Application}
  {pooled moved : PooledTask} {move : TaskMove}

/-- What a move makes of a task to which it is open. -/
inductive Moves (budget : Duration) (pooled : PooledTask) : TaskMove → PooledTask → Prop
  | acquire : pooled.call = .waiting →
      Moves budget pooled .acquire { pooled with call := .admitted }
  | reject {error : PolicyError} : pooled.call = .admitted → pooled.task.policy = .error error →
      Moves budget pooled .reject
        { pooled with call := .ended (.configurationFault pooled.task.program error) }
  | handOver {policy : CompiledPolicy} : pooled.call = .admitted →
      pooled.task.policy = .ok policy →
      Moves budget pooled .handOver { pooled with call := .handedOver }
  | start : pooled.call = .handedOver → Moves budget pooled .start { pooled with call := .running }
  | finish {result : MatchResult} : pooled.call = .running →
      Moves budget pooled (.finish (.ok result)) { pooled with call := .ended result }
  | crash {report : String} : pooled.call = .running →
      Moves budget pooled (.finish (.error report))
        { pooled with call := .ended (.faulted pooled.task.program (.crashed report)) }
  | expire : pooled.call = .handedOver ∨ pooled.call = .running → pooled.answer = .pending →
      Moves budget pooled .expire { pooled with answer := .delivered (pooled.timeout budget) }
  | deliver {result : MatchResult} : pooled.call = .ended result → pooled.answer = .pending →
      Moves budget pooled .deliver { pooled with answer := .delivered result }
  | join {result : MatchResult} : pooled.answer = .delivered result →
      Moves budget pooled .join { pooled with answer := .joined }

/-- A move that is open does one of these. -/
theorem moves_of_move? (success : pooled.move? budget move = some moved) :
    pooled.Moves budget move moved := by
  obtain ⟨task, call, answer⟩ := pooled
  unfold move? at success
  split at success
  case h_1 called => exact Option.some.inj success ▸ .acquire called
  case h_2 called failed => exact Option.some.inj success ▸ .reject called failed
  case h_3 called loaded => exact Option.some.inj success ▸ .handOver called loaded
  case h_4 called => exact Option.some.inj success ▸ .start called
  case h_5 called => exact Option.some.inj success ▸ .finish called
  case h_6 called => exact Option.some.inj success ▸ .crash called
  case h_7 called pending => exact Option.some.inj success ▸ .expire (.inl called) pending
  case h_8 called pending => exact Option.some.inj success ▸ .expire (.inr called) pending
  case h_9 called pending => exact Option.some.inj success ▸ .deliver called pending
  case h_10 delivered => exact Option.some.inj success ▸ .join delivered
  case h_11 => cases success

theorem Moves.task (moves : pooled.Moves budget move moved) : moved.task = pooled.task := by
  cases moves <;> rfl

theorem Moves.joined (moves : pooled.Moves budget move moved) (joined : pooled.answer = .joined) :
    moved.answer = .joined := by
  cases moves with
  | acquire | reject | handOver | start | finish | crash => exact joined
  | expire _ pending => exact nomatch joined.symm.trans pending
  | deliver _ pending => exact nomatch joined.symm.trans pending
  | join => rfl

/-- An answer is taken by joining a task that has one. -/
theorem arrival?_eq_some_iff {result : MatchResult} :
    pooled.arrival? move = some result ↔ move = .join ∧ pooled.answer = .delivered result := by
  obtain ⟨task, call, answer⟩ := pooled
  cases move <;> cases answer <;> simp [arrival?]

/-- As long as the task has no answer, the move is one of the evaluator. -/
def Follows (evaluator : Evaluator) (application : Application) (pooled : PooledTask)
    (move : TaskMove) : Prop :=
  ∀ policy attempt, pooled.answer = .pending → pooled.task.policy = .ok policy →
    move.attempt? = some attempt → evaluator pooled.task.program policy application = attempt

/-- Only a task with a policy goes on to a call, and what the task has to say is its result. -/
structure IsSound (evaluator : Evaluator) (budget : Duration) (application : Application)
    (pooled : PooledTask) : Prop where
  hasPolicy : pooled.call = .handedOver ∨ pooled.call = .running →
    ∃ policy, pooled.task.policy = .ok policy
  ended : ∀ result, pooled.call = .ended result → pooled.answer = .pending →
    result = pooled.task.result evaluator budget application
  delivered : ∀ result, pooled.answer = .delivered result →
    result = pooled.task.result evaluator budget application

theorem isSound_waiting (task : ProgramTask) :
    (waiting task).IsSound evaluator budget application where
  hasPolicy called := nomatch called
  ended _ called := nomatch called
  delivered _ said := nomatch said

/-- What a task with a policy results in once its call goes as the evaluator makes it go. -/
private theorem result_of_follows (follows : pooled.Follows evaluator application move)
    {policy : CompiledPolicy} (loaded : pooled.task.policy = .ok policy)
    (pending : pooled.answer = .pending) {attempt : Attempt}
    (attempted : move.attempt? = some attempt) :
    pooled.task.result evaluator budget application =
      attempt.result pooled.task.program budget := by
  rw [pooled.task.result_of_policy loaded, follows policy attempt pending loaded attempted]

theorem IsSound.moves (sound : pooled.IsSound evaluator budget application)
    (moves : pooled.Moves budget move moved) (follows : pooled.Follows evaluator application move) :
    moved.IsSound evaluator budget application := by
  cases moves with
  | acquire =>
    exact
      { hasPolicy := fun called => nomatch called
        ended := fun _ called => nomatch called
        delivered := sound.delivered }
  | reject called failed =>
    refine
      { hasPolicy := fun called => nomatch called
        ended := fun result ended _ => ?_
        delivered := sound.delivered }
    rw [← CallPhase.ended.inj ended, ProgramTask.result, failed]
  | handOver called loaded =>
    exact
      { hasPolicy := fun _ => ⟨_, loaded⟩
        ended := fun _ called => nomatch called
        delivered := sound.delivered }
  | start called =>
    exact
      { hasPolicy := fun _ => sound.hasPolicy (.inl called)
        ended := fun _ called => nomatch called
        delivered := sound.delivered }
  | finish called | crash called =>
    refine
      { hasPolicy := fun called => nomatch called
        ended := fun result ended pending => ?_
        delivered := sound.delivered }
    obtain ⟨policy, loaded⟩ := sound.hasPolicy (.inr called)
    rw [← CallPhase.ended.inj ended]
    exact (result_of_follows follows loaded pending rfl).symm
  | expire called pending =>
    refine
      { hasPolicy := sound.hasPolicy
        ended := fun _ _ pending => nomatch pending
        delivered := fun result said => ?_ }
    obtain ⟨policy, loaded⟩ := sound.hasPolicy called
    rw [← TaskAnswer.delivered.inj said]
    exact (result_of_follows follows loaded pending rfl).symm
  | deliver ended pending =>
    refine
      { hasPolicy := sound.hasPolicy
        ended := fun _ _ pending => nomatch pending
        delivered := fun result said => ?_ }
    rw [← TaskAnswer.delivered.inj said]
    exact sound.ended _ ended pending
  | join =>
    exact
      { hasPolicy := sound.hasPolicy
        ended := fun _ _ pending => nomatch pending
        delivered := fun _ said => nomatch said }

end PooledTask

namespace Pool

variable {pool next : Pool}

/-- A step is a move of the task at its place, and what arrives by it is listed last. -/
theorem step?_eq_some {step : PoolStep} (success : pool.step? step = some next) :
    ∃ pooled moved free, pool.tasks[step.place]? = some pooled ∧
      pooled.Moves pool.budget step.move moved ∧ step.move.freeAfter? pool.free = some free ∧
      next = ⟨pool.budget, free, pool.tasks.set step.place moved,
        pool.arrivals ++ ((pooled.arrival? step.move).map (step.place, ·)).toList⟩ := by
  simp only [step?, bind, Option.bind_eq_some_iff] at success
  obtain ⟨pooled, placed, moved, moves, free, permits, same⟩ := success
  exact ⟨pooled, moved, free, placed, PooledTask.moves_of_move? moves, permits,
    (Option.some.inj same).symm⟩

theorem replay?_cons {step : PoolStep} {rest : List PoolStep} {last : Pool} :
    pool.replay? (step :: rest) = some last ↔
      ∃ next, pool.step? step = some next ∧ next.replay? rest = some last := by
  simp only [replay?, List.foldlM_cons, bind, Option.bind_eq_some_iff]

/-- The steps are those of a run with an evaluator. -/
def Follows (evaluator : Evaluator) (application : Application) : Pool → List PoolStep → Prop
  | _, [] => True
  | pool, step :: rest =>
    (∀ pooled, pool.tasks[step.place]? = some pooled →
      pooled.Follows evaluator application step.move) ∧
    ∀ next, pool.step? step = some next → next.Follows evaluator application rest

/-- The pool evaluates a plan: its tasks are those of the plan, and of each at most one answer was
taken, which is the result of the task. -/
structure Collects (evaluator : Evaluator) (budget : Duration) (plan : RunPlan) (pool : Pool) :
    Prop where
  sameBudget : pool.budget = budget
  tasks : pool.tasks.map (·.task) = plan.tasks
  sound : ∀ pooled ∈ pool.tasks, pooled.IsSound evaluator budget plan.application
  distinct : (pool.arrivals.map (·.1)).Nodup
  joined : ∀ arrival ∈ pool.arrivals, ∃ pooled, pool.tasks[arrival.1]? = some pooled ∧
    pooled.answer = .joined ∧ arrival.2 = pooled.task.result evaluator budget plan.application

variable {evaluator : Evaluator} {budget : Duration} {plan : RunPlan}

theorem collects_ofPlan (evaluator : Evaluator) (limits : Limits) (plan : RunPlan) :
    (ofPlan limits plan).Collects evaluator limits.budget plan := by
  refine ⟨rfl, ?_, ?_, List.nodup_nil, fun _ member => nomatch member⟩
  · simp only [ofPlan, List.map_map, Function.comp_def, PooledTask.waiting, List.map_id']
  · intro pooled member
    obtain ⟨task, -, rfl⟩ := List.mem_map.mp member
    exact PooledTask.isSound_waiting task

/-- An answer that was taken stays what it is, whatever step is made. -/
private theorem joined_of_set {place : Nat} {pooled moved : PooledTask} {move : TaskMove}
    (placed : pool.tasks[place]? = some pooled) (moves : pooled.Moves pool.budget move moved)
    {arrival : Nat × MatchResult} {application : Application}
    (joined : ∃ other, pool.tasks[arrival.1]? = some other ∧ other.answer = .joined ∧
      arrival.2 = other.task.result evaluator budget application) :
    ∃ other, (pool.tasks.set place moved)[arrival.1]? = some other ∧ other.answer = .joined ∧
      arrival.2 = other.task.result evaluator budget application := by
  obtain ⟨other, there, joined, value⟩ := joined
  have inRange := (List.getElem?_eq_some_iff.mp placed).1
  by_cases same : place = arrival.1
  · have it : pooled = other := Option.some.inj (placed.symm.trans (same ▸ there))
    subst it same
    exact ⟨moved, List.getElem?_set_self inRange, moves.joined joined, moves.task ▸ value⟩
  · exact ⟨other, (List.getElem?_set_ne same).trans there, joined, value⟩

theorem Collects.step {step : PoolStep} (collects : pool.Collects evaluator budget plan)
    (stepped : pool.step? step = some next)
    (follows : ∀ pooled, pool.tasks[step.place]? = some pooled →
      pooled.Follows evaluator plan.application step.move) :
    next.Collects evaluator budget plan := by
  obtain ⟨pooled, moved, free, placed, moves, -, rfl⟩ := step?_eq_some stepped
  have inRange := (List.getElem?_eq_some_iff.mp placed).1
  have sound := collects.sound pooled (List.mem_of_getElem? placed)
  have kept := fun arrival member => joined_of_set placed moves (collects.joined arrival member)
  have tasks : (pool.tasks.set step.place moved).map (·.task) = plan.tasks := by
    have listed : (pool.tasks.map (·.task))[step.place]? = some moved.task := by
      rw [List.getElem?_map, placed, Option.map_some, moves.task]
    obtain ⟨_, same⟩ := List.getElem?_eq_some_iff.mp listed
    rw [List.map_set, ← same, List.set_getElem_self, collects.tasks]
  have all : ∀ other ∈ pool.tasks.set step.place moved,
      other.IsSound evaluator budget plan.application := by
    intro other member
    rcases List.mem_or_eq_of_mem_set member with before | rfl
    · exact collects.sound other before
    · exact sound.moves (collects.sameBudget ▸ moves) (follows pooled placed)
  cases taken : pooled.arrival? step.move with
  | none =>
    refine ⟨collects.sameBudget, tasks, all, ?_, ?_⟩ <;>
      simp only [Option.map_none, Option.toList_none, List.append_nil]
    · exact collects.distinct
    · exact kept
  | some result =>
    obtain ⟨joins, delivered⟩ := PooledTask.arrival?_eq_some_iff.mp taken
    have fresh : step.place ∉ pool.arrivals.map (·.1) := by
      intro before
      obtain ⟨arrival, member, here⟩ := List.mem_map.mp before
      obtain ⟨other, there, joined, -⟩ := collects.joined arrival member
      have it : pooled = other := Option.some.inj (placed.symm.trans (here ▸ there))
      exact nomatch (it ▸ delivered).symm.trans joined
    have joined : moved.answer = .joined := by
      rw [joins] at moves
      cases moves
      rfl
    refine ⟨collects.sameBudget, tasks, all, ?_, ?_⟩ <;>
      simp only [Option.map_some, Option.toList_some]
    · rw [List.map_append, List.map_singleton, ← List.concat_eq_append]
      exact collects.distinct.concat fresh
    · intro arrival member
      rcases List.mem_append.mp member with before | now
      · exact kept arrival before
      · rw [List.mem_singleton.mp now]
        refine ⟨moved, List.getElem?_set_self inRange, joined, ?_⟩
        rw [moves.task]
        exact sound.delivered result delivered

/-- Every run of the pool collects results of the plan. -/
theorem Collects.replay {steps : List PoolStep} (collects : pool.Collects evaluator budget plan)
    (replayed : pool.replay? steps = some next)
    (follows : pool.Follows evaluator plan.application steps) :
    next.Collects evaluator budget plan := by
  induction steps generalizing pool with
  | nil =>
    rw [← Option.some.inj replayed]
    exact collects
  | cons step rest ih =>
    obtain ⟨after, stepped, replayed⟩ := replay?_cons.mp replayed
    exact ih (collects.step stepped follows.1) replayed (follows.2 after stepped)

/-- What arrives in a run are deliveries of the plan, in some order and perhaps not all. -/
theorem Collects.subperm (collects : pool.Collects evaluator budget plan) :
    pool.arrivals.Subperm (plan.deliveries evaluator budget) := by
  refine List.subperm_of_subset collects.distinct.of_map fun arrival member => ?_
  obtain ⟨pooled, placed, -, value⟩ := collects.joined arrival member
  have planned : plan.tasks[arrival.1]? = some pooled.task := by
    rw [← collects.tasks, List.getElem?_map, placed]
    rfl
  refine List.mem_map.mpr ⟨(pooled.task, arrival.1), ?_, Prod.ext rfl value.symm⟩
  exact List.mk_mem_zipIdx_iff_getElem?.mpr planned

/-- The results of a run are gathered from what arrived. -/
theorem Collects.results (collects : pool.Collects evaluator budget plan) :
    pool.results = gather (plan.tasks.map (·.program)) pool.arrivals := by
  rw [Pool.results, ← collects.tasks, List.map_map]
  rfl

end Pool

end Underwriting
