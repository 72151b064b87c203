import Underwriting.Evaluation.Engine
import Underwriting.Run.Basic
import Underwriting.Service.Plan

/-!
# Evaluating a plan

Every task of a plan is evaluated on its own and delivers its result into the slot of its place in
the plan, in whatever order the tasks end. A task that can not be evaluated, crashes, takes too
long or never delivers leaves a fault on its program and touches no other.
-/

namespace Underwriting

/-- What became of the attempt to evaluate a program. -/
inductive Attempt
  | finished (result : MatchResult)
  | crashed (report : String)
  | overran
deriving DecidableEq

/-- Something that evaluates compiled policies. -/
abbrev Evaluator := LenderProgram → CompiledPolicy → Application → Attempt

/-- The evaluator that applies the policy and always ends in time. -/
def Evaluator.engine : Evaluator := fun program policy application =>
  .finished (policy.evaluate program application)

/-- The result of a task. -/
def ProgramTask.result (task : ProgramTask) (evaluator : Evaluator) (budget : Duration)
    (application : Application) : MatchResult :=
  match task.policy with
  | .error error => .configurationFault task.program error
  | .ok policy => match evaluator task.program policy application with
    | .finished result => result
    | .crashed report => .faulted task.program (.crashed report)
    | .overran => .faulted task.program (.timeout budget)

/-- The slots of a plan after results were delivered into them. -/
def fillSlots (slots : List (Option MatchResult)) (arrivals : List (Nat × MatchResult)) :
    List (Option MatchResult) :=
  arrivals.foldl (fun slots (place, result) => slots.set place (some result)) slots

/-- The results of programs whose tasks delivered what arrived, in ascending order. -/
def gather (programs : List LenderProgram) (arrivals : List (Nat × MatchResult)) :
    List MatchResult :=
  MatchRun.sortResults <|
    List.zipWith (fun program slot => slot.getD (.faulted program .lost)) programs
      (fillSlots (List.replicate programs.length none) arrivals)

namespace RunPlan

/-- The deliveries of all tasks, in the order of the plan. -/
def deliveries (plan : RunPlan) (evaluator : Evaluator) (budget : Duration) :
    List (Nat × MatchResult) :=
  plan.tasks.zipIdx.map fun (task, place) =>
    (place, task.result evaluator budget plan.application)

/-- The results of a plan. -/
def evaluate (plan : RunPlan) (evaluator : Evaluator) (budget : Duration) : List MatchResult :=
  gather (plan.tasks.map (·.program)) (plan.deliveries evaluator budget)

end RunPlan

end Underwriting
