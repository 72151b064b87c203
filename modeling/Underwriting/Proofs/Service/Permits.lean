import Mathlib.Algebra.GroupWithZero.Nat
import Underwriting.Directory.Seed
import Underwriting.Proofs.Service.Schedules

/-! # Permits of the pool

A permit is free or it is held by one task, from the moment in which the task enters until its
policy is rejected or its call ends. So there are at all times as many permits as the pool is wide,
and no more calls run than that, calls that outlive the answers of their tasks included. Whoever
holds a permit can go on, and if nobody does, all of them are free: a pool whose calls return is
never stuck, and since every move brings a task nearer to its end, every run of it comes to one.
-/

namespace Underwriting

section OneTask

/-- The most moves that a call can still make. -/
def CallPhase.movesLeft : CallPhase → Nat
  | .waiting => 4
  | .admitted => 3
  | .handedOver => 2
  | .running => 1
  | .ended _ => 0

/-- The most moves until an answer is taken. -/
def TaskAnswer.movesLeft : TaskAnswer → Nat
  | .pending => 2
  | .delivered _ => 1
  | .joined => 0

namespace PooledTask

variable {budget : Duration} {pooled moved : PooledTask} {move : TaskMove}

/-- The most moves that a task can still make. -/
def movesLeft (pooled : PooledTask) : Nat := pooled.call.movesLeft + pooled.answer.movesLeft

/-- A move takes a free permit exactly if the task holds one afterwards that it did not hold before,
and gives it back exactly if it is the other way round. -/
theorem Moves.permits (moves : pooled.Moves budget move moved) {free left : Nat}
    (given : move.freeAfter? free = some left) :
    left + (if moved.call.holdsPermit then 1 else 0) =
      free + (if pooled.call.holdsPermit then 1 else 0) := by
  cases moves with
  | acquire called =>
    simp only [TaskMove.freeAfter?] at given
    split at given
    · cases given
    · rename_i some_free
      cases given
      simp only [called, CallPhase.holdsPermit, Bool.false_eq_true, ↓reduceIte]
      omega
  | reject called | handOver called | start called | finish called | crash called =>
    cases given
    simp only [called, CallPhase.holdsPermit, Bool.false_eq_true, ↓reduceIte, Nat.add_zero]
  | expire | deliver | join =>
    cases given
    rfl

/-- Every move brings a task nearer to its end. -/
theorem Moves.movesLeft_lt (moves : pooled.Moves budget move moved) :
    moved.movesLeft < pooled.movesLeft := by
  cases moves with
  | acquire called | reject called | handOver called | start called | finish called
  | crash called =>
    simp only [movesLeft, called, CallPhase.movesLeft]
    omega
  | expire _ answered | deliver _ answered | join answered =>
    simp only [movesLeft, answered, TaskAnswer.movesLeft]
    omega

/-- A task that holds a permit can go on, and without waiting for the evaluator unless its call
runs. -/
theorem exists_moves_of_holdsPermit (budget : Duration) (holds : pooled.call.holdsPermit = true) :
    ∃ move moved, pooled.Moves budget move moved ∧ (∀ free, (move.freeAfter? free).isSome = true) ∧
      (pooled.call.isRunning = false → move.attempt? = none) := by
  cases called : pooled.call with
  | waiting | ended =>
    rw [called] at holds
    cases holds
  | admitted =>
    cases loaded : pooled.task.policy with
    | error error => exact ⟨_, _, .reject called loaded, fun _ => rfl, fun _ => rfl⟩
    | ok policy => exact ⟨_, _, .handOver called loaded, fun _ => rfl, fun _ => rfl⟩
  | handedOver => exact ⟨_, _, .start called, fun _ => rfl, fun _ => rfl⟩
  | running =>
    refine ⟨.finish (.ok (pooled.timeout budget)), _, .finish called, fun _ => rfl, ?_⟩
    intro still
    cases still

/-- A task that holds no permit and whose answer was not taken can go on if a permit is free. -/
theorem exists_moves_of_unjoined (budget : Duration) (holds : pooled.call.holdsPermit = false)
    (unjoined : pooled.answer ≠ .joined) {free : Nat} (some_free : 0 < free) :
    ∃ move moved, pooled.Moves budget move moved ∧ (move.freeAfter? free).isSome = true ∧
      move.attempt? = none := by
  cases called : pooled.call with
  | admitted | handedOver | running =>
    rw [called] at holds
    cases holds
  | waiting =>
    refine ⟨_, _, .acquire called, ?_, rfl⟩
    rw [TaskMove.freeAfter?, if_neg (Nat.ne_of_gt some_free), Option.isSome_some]
  | ended result =>
    cases answered : pooled.answer with
    | pending => exact ⟨_, _, .deliver called answered, rfl, rfl⟩
    | delivered result => exact ⟨_, _, .join answered, rfl, rfl⟩
    | joined => exact absurd answered unjoined

end PooledTask

end OneTask

namespace Pool

variable {pool next : Pool} {step : PoolStep}

/-- The most moves that all tasks together can still make. -/
def movesLeft (pool : Pool) : Nat := (pool.tasks.map (·.movesLeft)).sum

/-- A step moves one task and leaves the others as they are. -/
theorem step?_splits (stepped : pool.step? step = some next) :
    ∃ before pooled moved rest, pool.tasks = before ++ pooled :: rest ∧
      next.tasks = before ++ moved :: rest ∧ pooled.Moves pool.budget step.move moved ∧
      step.move.freeAfter? pool.free = some next.free := by
  obtain ⟨pooled, moved, free, placed, moves, left, rfl⟩ := step?_eq_some stepped
  obtain ⟨inRange, rfl⟩ := List.getElem?_eq_some_iff.mp placed
  obtain ⟨before, rest, split, -, replaced⟩ := @List.exists_of_set _ _ moved _ inRange
  exact ⟨before, _, moved, rest, split, replaced, moves, left⟩

/-- A move that is open to a task, and for which there is a permit, is a step of the pool. -/
theorem exists_step_of_moves {pooled moved : PooledTask} {move : TaskMove}
    (member : pooled ∈ pool.tasks) (moves : pooled.Moves pool.budget move moved)
    (left : (move.freeAfter? pool.free).isSome = true) :
    ∃ place next, pool.step? ⟨place, move⟩ = some next := by
  obtain ⟨place, placed⟩ := List.getElem?_of_mem member
  obtain ⟨free, given⟩ := Option.isSome_iff_exists.mp left
  refine ⟨place, Option.isSome_iff_exists.mp ?_⟩
  simp only [step?, placed, PooledTask.move?_of_moves moves, given, bind, Option.bind_some]
  rfl

theorem running_le_held (pool : Pool) : pool.running ≤ pool.held :=
  List.countP_mono_left fun pooled _ => pooled.call.holdsPermit_of_isRunning

theorem held_ofPlan (limits : Limits) (plan : RunPlan) : (ofPlan limits plan).held = 0 := by
  rw [held, List.countP_eq_zero]
  intro pooled member
  obtain ⟨task, -, rfl⟩ := List.mem_map.mp member
  exact Bool.false_ne_true

theorem movesLeft_ofPlan (limits : Limits) (plan : RunPlan) :
    (ofPlan limits plan).movesLeft = 6 * plan.tasks.length := by
  simp only [movesLeft, ofPlan, List.map_map]
  induction plan.tasks with
  | nil => rfl
  | cons task rest ih =>
    rw [List.map_cons, List.sum_cons, ih, List.length_cons]
    change 6 + _ = _
    omega

/-- No step makes or loses a permit. -/
theorem free_add_held_step (stepped : pool.step? step = some next) :
    next.free + next.held = pool.free + pool.held := by
  obtain ⟨before, pooled, moved, rest, tasks, after, moves, left⟩ := step?_splits stepped
  have permits := moves.permits left
  simp only [held, tasks, after, List.countP_append, List.countP_cons]
  omega

theorem movesLeft_step (stepped : pool.step? step = some next) :
    next.movesLeft < pool.movesLeft := by
  obtain ⟨before, pooled, moved, rest, tasks, after, moves, -⟩ := step?_splits stepped
  have nearer := moves.movesLeft_lt
  simp only [movesLeft, tasks, after, List.map_append, List.map_cons, List.sum_append,
    List.sum_cons]
  omega

/-- Nor does any run of the pool make or lose one. -/
theorem free_add_held_replay {steps : List PoolStep} (replayed : pool.replay? steps = some next) :
    next.free + next.held = pool.free + pool.held := by
  induction steps generalizing pool with
  | nil => rw [← Option.some.inj replayed]
  | cons step rest ih =>
    obtain ⟨middle, stepped, onward⟩ := replay?_cons.mp replayed
    rw [ih onward, free_add_held_step stepped]

theorem length_add_movesLeft_replay {steps : List PoolStep}
    (replayed : pool.replay? steps = some next) :
    steps.length + next.movesLeft ≤ pool.movesLeft := by
  induction steps generalizing pool with
  | nil =>
    rw [← Option.some.inj replayed, List.length_nil]
    omega
  | cons step rest ih =>
    obtain ⟨middle, stepped, onward⟩ := replay?_cons.mp replayed
    have nearer := movesLeft_step stepped
    have others := ih onward
    rw [List.length_cons]
    omega

/-- If nobody holds a permit, none is held. -/
theorem held_eq_zero (nobody : ¬ ∃ pooled ∈ pool.tasks, pooled.call.holdsPermit = true) :
    pool.held = 0 := by
  rw [held, List.countP_eq_zero]
  exact fun pooled member holds => nobody ⟨pooled, member, holds⟩

/-- While no call runs and an answer is outstanding, there is a step that needs no evaluator. -/
theorem exists_step_of_unjoined (width : 0 < pool.free + pool.held) (idle : pool.running = 0)
    {pooled : PooledTask} (member : pooled ∈ pool.tasks) (unjoined : pooled.answer ≠ .joined) :
    ∃ step next, step.move.attempt? = none ∧ pool.step? step = some next := by
  by_cases somebody : ∃ holder ∈ pool.tasks, holder.call.holdsPermit = true
  · obtain ⟨holder, present, holds⟩ := somebody
    have still : holder.call.isRunning = false := by
      rw [← Bool.not_eq_true]
      exact List.countP_eq_zero.mp idle holder present
    obtain ⟨move, moved, moves, given, own⟩ :=
      PooledTask.exists_moves_of_holdsPermit pool.budget holds
    obtain ⟨place, next, stepped⟩ := exists_step_of_moves present moves (given pool.free)
    exact ⟨⟨place, move⟩, next, own still, stepped⟩
  · have none_held : pooled.call.holdsPermit = false := by
      rw [← Bool.not_eq_true]
      exact fun holds => somebody ⟨pooled, member, holds⟩
    have some_free : 0 < pool.free := by
      rw [held_eq_zero somebody] at width
      exact width
    obtain ⟨move, moved, moves, given, own⟩ :=
      PooledTask.exists_moves_of_unjoined pool.budget none_held unjoined some_free
    obtain ⟨place, next, stepped⟩ := exists_step_of_moves member moves given
    exact ⟨⟨place, move⟩, next, own, stepped⟩

/-- Where no step is open, no permit is held and every answer was taken. -/
theorem ended_of_no_step (width : 0 < pool.free + pool.held)
    (stuck : ∀ step, pool.step? step = none) :
    pool.held = 0 ∧ ∀ pooled ∈ pool.tasks, pooled.answer = .joined := by
  have none_held : pool.held = 0 := by
    apply held_eq_zero
    rintro ⟨holder, present, holds⟩
    obtain ⟨move, moved, moves, given, -⟩ :=
      PooledTask.exists_moves_of_holdsPermit pool.budget holds
    obtain ⟨place, next, stepped⟩ := exists_step_of_moves present moves (given pool.free)
    rw [stuck] at stepped
    cases stepped
  refine ⟨none_held, ?_⟩
  intro pooled member
  by_contra unjoined
  have idle : pool.running = 0 := Nat.le_zero.mp (none_held ▸ pool.running_le_held)
  obtain ⟨step, next, -, stepped⟩ := exists_step_of_unjoined width idle member unjoined
  rw [stuck] at stepped
  cases stepped

/-- In every run of the pool there are as many permits, free and held, as the pool is wide, and no
more calls run than that, whatever became of the answers of their tasks. As long as an answer is
outstanding and no call runs, there is a step that needs no evaluator. A run has at most six steps
for each task, and where it can not go on every answer was taken and every permit is free. -/
theorem replay_keeps_permits (limits : Limits) (plan : RunPlan) {steps : List PoolStep}
    (replayed : (ofPlan limits plan).replay? steps = some pool) :
    pool.free + pool.held = limits.poolWidth ∧ pool.running ≤ limits.poolWidth ∧
      (pool.running = 0 → (∃ pooled ∈ pool.tasks, pooled.answer ≠ .joined) →
        ∃ step next, step.move.attempt? = none ∧ pool.step? step = some next) ∧
      steps.length ≤ 6 * plan.tasks.length ∧
      ((∀ step, pool.step? step = none) →
        pool.free = limits.poolWidth ∧ ∀ pooled ∈ pool.tasks, pooled.answer = .joined) := by
  have conserved : pool.free + pool.held = limits.poolWidth := by
    rw [free_add_held_replay replayed, held_ofPlan]
    rfl
  have width : 0 < pool.free + pool.held := conserved ▸ limits.poolWidth_pos
  refine ⟨conserved, ?_, ?_, ?_, ?_⟩
  · have bounded := pool.running_le_held
    omega
  · rintro idle ⟨pooled, member, unjoined⟩
    exact exists_step_of_unjoined width idle member unjoined
  · have counted := length_add_movesLeft_replay replayed
    rw [movesLeft_ofPlan] at counted
    omega
  · intro stuck
    obtain ⟨none_held, joined⟩ := ended_of_no_step width stuck
    exact ⟨by omega, joined⟩

/-- A task of a program whose policy asks nothing. -/
def lenientTask (id : UInt64) : ProgramTask :=
  ⟨⟨⟨id⟩, ⟨1⟩, "Standard", 10000, 500000, 24, 60⟩, .ok ⟨⟨id⟩, 1, .empty, .empty, .standard⟩⟩

/-- Two such tasks. -/
def lenientPlan : RunPlan := ⟨Seed.application 50000 36 690, [lenientTask 1, lenientTask 2]⟩

/-- Limits that let nobody in, which are taken to let one task in. -/
def closedLimits : Limits := ⟨.ofMilliseconds 2000, 0⟩

/-- The first call takes too long, and the answer for it is taken while it runs. -/
def overrun : List PoolStep :=
  [⟨0, .acquire⟩, ⟨0, .handOver⟩, ⟨0, .start⟩, ⟨0, .expire⟩, ⟨0, .join⟩]

/-- The pool in which the first task has a phase of its call, and its answer for a timeout was
taken. -/
def overrunPool (free : Nat) (call : CallPhase) : Pool where
  budget := closedLimits.budget
  free := free
  tasks := [⟨lenientTask 1, call, .joined⟩, .waiting (lenientTask 2)]
  arrivals := [(0, .faulted (lenientTask 1).program (.timeout closedLimits.budget))]

/-- The call that nobody waits for keeps the only permit, and the second task has to wait for its
return. -/
theorem replay_keeps_permits_overrun :
    closedLimits.poolWidth = 1 ∧
      (ofPlan closedLimits lenientPlan).replay? overrun = some (overrunPool 0 .running) ∧
      (overrunPool 0 .running).running = 1 ∧
      (overrunPool 0 .running).free + (overrunPool 0 .running).held = 1 ∧
      (overrunPool 0 .running).step? ⟨1, .acquire⟩ = none ∧
      let returned : MatchResult := .faulted (lenientTask 1).program (.crashed "")
      (ofPlan closedLimits lenientPlan).replay? (overrun ++ [⟨0, .finish (.error "")⟩]) =
          some (overrunPool 1 (.ended returned)) ∧
        ∃ step next, step.move.attempt? = none ∧
          (overrunPool 1 (.ended returned)).step? step = some next := by
  have overran : (ofPlan closedLimits lenientPlan).replay? overrun =
      some (overrunPool 0 .running) := rfl
  have returned : (ofPlan closedLimits lenientPlan).replay?
      (overrun ++ [⟨0, .finish (.error "")⟩]) =
        some (overrunPool 1 (.ended (.faulted (lenientTask 1).program (.crashed "")))) := rfl
  obtain ⟨conserved, -, -, -, -⟩ := replay_keeps_permits closedLimits lenientPlan overran
  obtain ⟨-, -, goes_on, -, -⟩ := replay_keeps_permits closedLimits lenientPlan returned
  refine ⟨rfl, overran, rfl, conserved, rfl, returned, goes_on rfl ?_⟩
  exact ⟨_, List.mem_cons_of_mem _ List.mem_cons_self, TaskAnswer.noConfusion⟩

end Pool

end Underwriting
