import Underwriting.Config.Limits
import Underwriting.Service.FanIn

/-!
# The pool of evaluations

The tasks of a plan share a pool of permits. A task waits for a permit before it looks at its
policy. Without a policy it answers at once and gives the permit back; otherwise it hands the
permit over to the call of the evaluator, which keeps it until it returns or crashes. A task whose
budget expires answers without waiting for its call, so a call may outlive the answer of its task
and may even begin after it. Which step comes next is open; `Pool.replay?` follows any order.
-/

namespace Underwriting

/-- How far a task is with its call of the evaluator. -/
inductive CallPhase
  | waiting
  | admitted
  | handedOver
  | running
  | ended (result : MatchResult)
deriving DecidableEq

/-- Whether a permit is held, by the task or by its call. -/
def CallPhase.holdsPermit : CallPhase → Bool
  | .admitted | .handedOver | .running => true
  | .waiting | .ended _ => false

/-- Whether the evaluator has been called and has not returned. -/
def CallPhase.isRunning : CallPhase → Bool
  | .running => true
  | .waiting | .admitted | .handedOver | .ended _ => false

/-- A call that has begun holds its permit. -/
theorem CallPhase.holdsPermit_of_isRunning (call : CallPhase) (running : call.isRunning = true) :
    call.holdsPermit = true := by
  cases call <;> simp_all [isRunning, holdsPermit]

/-- Whether a task has answered, and whether its answer was taken. -/
inductive TaskAnswer
  | pending
  | delivered (result : MatchResult)
  | joined
deriving DecidableEq

/-- A task in the pool. -/
structure PooledTask where
  task : ProgramTask
  call : CallPhase
  answer : TaskAnswer

/-- What can happen to a task. A call ends with a result or with the report of a crash. -/
inductive TaskMove
  | acquire
  | reject
  | handOver
  | start
  | finish (outcome : Except String MatchResult)
  | expire
  | deliver
  | join

namespace TaskMove

/-- The free permits after a move: one is taken to enter and given back where the work ends. -/
def freeAfter? (free : Nat) : TaskMove → Option Nat
  | .acquire => if free = 0 then none else some (free - 1)
  | .reject | .finish _ => some (free + 1)
  | .handOver | .start | .expire | .deliver | .join => some free

end TaskMove

namespace PooledTask

/-- A task that waits for a permit. -/
def waiting (task : ProgramTask) : PooledTask := ⟨task, .waiting, .pending⟩

/-- The answer of a task whose call takes too long. -/
def timeout (pooled : PooledTask) (budget : Duration) : MatchResult :=
  .faulted pooled.task.program (.timeout budget)

/-- The task after a move, unless the move is not open to it. -/
def move? (budget : Duration) (pooled : PooledTask) (move : TaskMove) : Option PooledTask :=
  match move, pooled.call, pooled.task.policy, pooled.answer with
  | .acquire, .waiting, _, _ => some { pooled with call := .admitted }
  | .reject, .admitted, .error error, _ =>
    some { pooled with call := .ended (.configurationFault pooled.task.program error) }
  | .handOver, .admitted, .ok _, _ => some { pooled with call := .handedOver }
  | .start, .handedOver, _, _ => some { pooled with call := .running }
  | .finish (.ok result), .running, _, _ => some { pooled with call := .ended result }
  | .finish (.error report), .running, _, _ =>
    some { pooled with call := .ended (.faulted pooled.task.program (.crashed report)) }
  | .expire, .handedOver, _, .pending | .expire, .running, _, .pending =>
    some { pooled with answer := .delivered (pooled.timeout budget) }
  | .deliver, .ended result, _, .pending => some { pooled with answer := .delivered result }
  | .join, _, _, .delivered _ => some { pooled with answer := .joined }
  | _, _, _, _ => none

/-- What a move makes of the answer that the fan-in waits for. -/
def arrival? (pooled : PooledTask) (move : TaskMove) : Option MatchResult :=
  match move, pooled.answer with
  | .join, .delivered result => some result
  | _, _ => none

end PooledTask

/-- A move of the task at a place of the plan. -/
structure PoolStep where
  place : Nat
  move : TaskMove

/-- The free permits, the tasks, and what has arrived of them, the earliest first. -/
structure Pool where
  budget : Duration
  free : Nat
  tasks : List PooledTask
  arrivals : List (Nat × MatchResult)

namespace Pool

/-- The pool in which the tasks of a plan begin. -/
def ofPlan (limits : Limits) (plan : RunPlan) : Pool where
  budget := limits.budget
  free := limits.poolWidth
  tasks := plan.tasks.map .waiting
  arrivals := []

/-- The number of permits that are held. -/
def held (pool : Pool) : Nat := pool.tasks.countP fun pooled => pooled.call.holdsPermit

/-- The number of calls that have begun and not ended. -/
def running (pool : Pool) : Nat := pool.tasks.countP fun pooled => pooled.call.isRunning

/-- The pool after a step, unless the step is not open. -/
def step? (pool : Pool) (step : PoolStep) : Option Pool := do
  let pooled ← pool.tasks[step.place]?
  let moved ← pooled.move? pool.budget step.move
  let free ← step.move.freeAfter? pool.free
  return {
    pool with
    free
    tasks := pool.tasks.set step.place moved
    arrivals := pool.arrivals ++ ((pooled.arrival? step.move).map (step.place, ·)).toList }

/-- The pool after steps in the given order, unless one of them is not open. -/
def replay? (pool : Pool) (steps : List PoolStep) : Option Pool := steps.foldlM step? pool

/-- The results of the plan by what has arrived. -/
def results (pool : Pool) : List MatchResult :=
  gather (pool.tasks.map fun pooled => pooled.task.program) pool.arrivals

end Pool

end Underwriting
