import Underwriting.Proofs.Service.Pooling

/-! # Orders that the pool can follow

The permits keep tasks waiting, but they rule out no order of deliveries. A task that waits can be
taken through all its moves while the others stand still: it takes a permit, comes to its result,
answers, and gives the permit back, at the latest when its call returns behind its answer. So any
tasks of a plan can be made to deliver one after the other in any order.
-/

namespace Underwriting

/-- What a move does to a task shows that it is open. -/
theorem PooledTask.move?_of_moves {budget : Duration} {pooled moved : PooledTask} {move : TaskMove}
    (moves : pooled.Moves budget move moved) : pooled.move? budget move = some moved := by
  obtain ⟨task, call, answer⟩ := pooled
  cases moves with
  | acquire called | start called | finish called | crash called =>
    cases called
    rfl
  | reject called failed =>
    cases called
    simp only at failed
    simp only [move?, failed]
  | handOver called loaded =>
    cases called
    simp only at loaded
    simp only [move?, loaded]
  | expire called pending =>
    cases pending
    rcases called with called | called <;> cases called <;> rfl
  | deliver called pending =>
    cases called
    cases pending
    rfl
  | join delivered =>
    cases delivered
    cases call <;> rfl

namespace Pool

variable {evaluator : Evaluator} {application : Application} {pool middle next : Pool}

/-- Some run with the evaluator takes the pool there. -/
def Leads (evaluator : Evaluator) (application : Application) (pool next : Pool) : Prop :=
  ∃ steps, pool.replay? steps = some next ∧ pool.Follows evaluator application steps

theorem Leads.refl (pool : Pool) : pool.Leads evaluator application pool := ⟨[], rfl, trivial⟩

theorem Leads.trans (first : pool.Leads evaluator application middle)
    (second : middle.Leads evaluator application next) :
    pool.Leads evaluator application next := by
  obtain ⟨front, replayed, follows⟩ := first
  obtain ⟨back, onward, keeps⟩ := second
  refine ⟨front ++ back, ?_, ?_⟩
  · rw [replay?, List.foldlM_append]
    exact Option.bind_eq_some_iff.mpr ⟨middle, replayed, onward⟩
  · clear onward
    induction front generalizing pool with
    | nil => exact Option.some.inj replayed ▸ keeps
    | cons step rest ih =>
      obtain ⟨after, stepped, replayed⟩ := replay?_cons.mp replayed
      refine ⟨follows.1, fun other also => ?_⟩
      obtain rfl : after = other := Option.some.inj (stepped.symm.trans also)
      exact ih replayed (follows.2 after stepped)

/-- The pool with a task put in its place, so many free permits, and what has arrived. -/
def holding (pool : Pool) (place : Nat) (pooled : PooledTask) (free : Nat)
    (arrivals : List (Nat × MatchResult)) : Pool :=
  ⟨pool.budget, free, pool.tasks.set place pooled, arrivals⟩

theorem holding_self {place : Nat} {pooled : PooledTask}
    (placed : pool.tasks[place]? = some pooled) :
    pool.holding place pooled pool.free pool.arrivals = pool := by
  obtain ⟨inRange, rfl⟩ := List.getElem?_eq_some_iff.mp placed
  rw [holding, List.set_getElem_self]

section Course

variable {place : Nat} {pooled moved : PooledTask} {move : TaskMove} {free permits : Nat}
  {arrivals : List (Nat × MatchResult)}

/-- A move of one task leads to the pool with that task moved. -/
theorem leads_of_moves (inRange : place < pool.tasks.length)
    (moves : pooled.Moves pool.budget move moved) (left : move.freeAfter? free = some permits)
    (follows : pooled.Follows evaluator application move) :
    (pool.holding place pooled free arrivals).Leads evaluator application
      (pool.holding place moved permits
        (arrivals ++ ((pooled.arrival? move).map (place, ·)).toList)) := by
  have placed : (pool.holding place pooled free arrivals).tasks[place]? = some pooled :=
    List.getElem?_set_self inRange
  have made : pooled.move? (pool.holding place pooled free arrivals).budget move = some moved :=
    PooledTask.move?_of_moves moves
  have given : move.freeAfter? (pool.holding place pooled free arrivals).free = some permits := left
  have stepped : (pool.holding place pooled free arrivals).step? ⟨place, move⟩ =
      some (pool.holding place moved permits
        (arrivals ++ ((pooled.arrival? move).map (place, ·)).toList)) := by
    simp only [step?, placed, made, given, bind, Option.bind_some]
    simp only [holding, List.set_set]
    rfl
  refine ⟨[⟨place, move⟩], replay?_cons.mpr ⟨_, stepped, rfl⟩, fun other there => ?_, ?_⟩
  · obtain rfl : pooled = other := Option.some.inj (placed.symm.trans there)
    exact follows
  · exact fun _ _ => trivial

/-- A move by which nothing arrives. -/
theorem leads_of_silent (inRange : place < pool.tasks.length)
    (moves : pooled.Moves pool.budget move moved) (left : move.freeAfter? free = some permits)
    (follows : pooled.Follows evaluator application move) (silent : move ≠ .join) :
    (pool.holding place pooled free arrivals).Leads evaluator application
      (pool.holding place moved permits arrivals) := by
  have leads := @leads_of_moves _ application _ _ _ _ _ _ _ arrivals inRange moves left follows
  have nothing : pooled.arrival? move = none :=
    Option.eq_none_iff_forall_ne_some.mpr fun result taken =>
      silent (PooledTask.arrival?_eq_some_iff.mp taken).1
  rwa [nothing, Option.map_none, Option.toList_none, List.append_nil] at leads

/-- A move that ends no waiting for a call is one of every evaluator. -/
theorem follows_of_attempt? (endsNone : move.attempt? = none) :
    pooled.Follows evaluator application move := by
  intro policy attempt _ _ attempted
  exact nomatch endsNone.symm.trans attempted

/-- A move is one of the evaluator if it ends the waiting as the evaluator does. -/
theorem follows_of_evaluator {task : ProgramTask} {policy : CompiledPolicy} {call : CallPhase}
    {answer : TaskAnswer} (loaded : task.policy = .ok policy)
    (attempted : move.attempt? = some (evaluator task.program policy application)) :
    PooledTask.Follows evaluator application ⟨task, call, answer⟩ move := by
  intro other attempt _ also given
  obtain rfl : policy = other := Except.ok.inj (loaded.symm.trans also)
  exact Option.some.inj (attempted.symm.trans given)

/-- An answer that was delivered is taken. -/
private theorem leads_join (inRange : place < pool.tasks.length) (task : ProgramTask)
    (call : CallPhase) (result : MatchResult) :
    (pool.holding place ⟨task, call, .delivered result⟩ free arrivals).Leads evaluator application
      (pool.holding place ⟨task, call, .joined⟩ free (arrivals ++ [(place, result)])) :=
  leads_of_moves inRange (.join rfl) rfl (follows_of_attempt? rfl)

/-- A task whose call has ended answers, and the answer is taken. -/
private theorem leads_answer (inRange : place < pool.tasks.length) (task : ProgramTask)
    (result : MatchResult) :
    (pool.holding place ⟨task, .ended result, .pending⟩ free arrivals).Leads evaluator application
      (pool.holding place ⟨task, .ended result, .joined⟩ free
        (arrivals ++ [(place, result)])) := by
  refine Leads.trans ?_ (leads_join inRange task (.ended result) result)
  exact leads_of_silent inRange (.deliver rfl rfl) rfl (follows_of_attempt? rfl)
    TaskMove.noConfusion

/-- A call that runs goes as the evaluator makes it go: the result of the task arrives, and the
permit is given back. -/
private theorem leads_running (inRange : place < pool.tasks.length) {task : ProgramTask}
    {policy : CompiledPolicy} (loaded : task.policy = .ok policy) {attempt : Attempt}
    (attempted : evaluator task.program policy application = attempt) :
    ∃ done, (pool.holding place ⟨task, .running, .pending⟩ free arrivals).Leads evaluator
      application (pool.holding place done (free + 1)
        (arrivals ++ [(place, attempt.result task.program pool.budget)])) := by
  cases attempt with
  | finished result =>
    refine ⟨_, Leads.trans ?_ (leads_answer inRange task result)⟩
    refine leads_of_silent inRange (.finish rfl) rfl ?_ TaskMove.noConfusion
    exact follows_of_evaluator loaded (congrArg some attempted.symm)
  | crashed report =>
    refine ⟨_, Leads.trans ?_ (leads_answer inRange task _)⟩
    refine leads_of_silent inRange (.crash rfl) rfl ?_ TaskMove.noConfusion
    exact follows_of_evaluator loaded (congrArg some attempted.symm)
  | overran =>
    -- The answer is taken while the call goes on, and the permit comes back when the call ends.
    have expires : (pool.holding place ⟨task, .running, .pending⟩ free arrivals).Leads evaluator
        application (pool.holding place
          ⟨task, .running, .delivered (.faulted task.program (.timeout pool.budget))⟩ free
          arrivals) := by
      refine leads_of_silent inRange (.expire (.inr rfl) rfl) rfl ?_ TaskMove.noConfusion
      exact follows_of_evaluator loaded (congrArg some attempted.symm)
    have returns (arrived : List (Nat × MatchResult)) :
        (pool.holding place ⟨task, .running, .joined⟩ free arrived).Leads evaluator application
          (pool.holding place ⟨task, .ended (.faulted task.program .lost), .joined⟩ (free + 1)
            arrived) := by
      refine leads_of_silent inRange (.finish rfl) rfl ?_ TaskMove.noConfusion
      exact fun _ _ pending => nomatch pending
    exact ⟨_, expires.trans ((leads_join inRange task .running _).trans (returns _))⟩

/-- A task with a permit comes to its result, which arrives, and the permit is given back. -/
private theorem leads_admitted (inRange : place < pool.tasks.length) (task : ProgramTask) :
    ∃ done, (pool.holding place ⟨task, .admitted, .pending⟩ free arrivals).Leads evaluator
      application (pool.holding place done (free + 1)
        (arrivals ++ [(place, task.result evaluator pool.budget application)])) := by
  cases loaded : task.policy with
  | error error =>
    refine ⟨_, Leads.trans ?_ (leads_answer inRange task _)⟩
    rw [ProgramTask.result, loaded]
    exact leads_of_silent inRange (.reject rfl loaded) rfl (follows_of_attempt? rfl)
      TaskMove.noConfusion
  | ok policy =>
    have handed : (pool.holding place ⟨task, .admitted, .pending⟩ free arrivals).Leads evaluator
        application (pool.holding place ⟨task, .handedOver, .pending⟩ free arrivals) :=
      leads_of_silent inRange (.handOver rfl loaded) rfl (follows_of_attempt? rfl)
        TaskMove.noConfusion
    have begins : (pool.holding place ⟨task, .handedOver, .pending⟩ free arrivals).Leads evaluator
        application (pool.holding place ⟨task, .running, .pending⟩ free arrivals) :=
      leads_of_silent inRange (.start rfl) rfl (follows_of_attempt? rfl) TaskMove.noConfusion
    obtain ⟨done, ends⟩ := leads_running inRange loaded rfl
    rw [task.result_of_policy loaded]
    exact ⟨done, handed.trans (begins.trans ends)⟩

end Course

/-- A task that waits can be made to deliver its result and to give its permit back. -/
theorem leads_delivery {place : Nat} {task : ProgramTask}
    (placed : pool.tasks[place]? = some (.waiting task)) (free : 0 < pool.free) :
    ∃ done, pool.Leads evaluator application (pool.holding place done pool.free
      (pool.arrivals ++ [(place, task.result evaluator pool.budget application)])) := by
  have inRange := (List.getElem?_eq_some_iff.mp placed).1
  have acquires : (pool.holding place (.waiting task) pool.free pool.arrivals).Leads evaluator
      application (pool.holding place ⟨task, .admitted, .pending⟩ (pool.free - 1)
        pool.arrivals) := by
    refine leads_of_silent inRange (.acquire rfl) ?_ (follows_of_attempt? rfl)
      TaskMove.noConfusion
    exact if_neg (Nat.ne_of_gt free)
  obtain ⟨done, leads⟩ := leads_admitted inRange task
  rw [holding_self placed] at acquires
  refine ⟨done, acquires.trans ?_⟩
  rwa [Nat.sub_add_cancel free] at leads

/-- Tasks that wait can be made to deliver one after the other. -/
theorem exists_leads {arrivals : List (Nat × MatchResult)}
    (distinct : (arrivals.map (·.1)).Nodup) (free : 0 < pool.free)
    (wait : ∀ arrival ∈ arrivals, ∃ task, pool.tasks[arrival.1]? = some (.waiting task) ∧
      arrival.2 = task.result evaluator pool.budget application) :
    ∃ next, pool.Leads evaluator application next ∧ next.arrivals = pool.arrivals ++ arrivals := by
  induction arrivals generalizing pool with
  | nil => exact ⟨pool, .refl pool, (List.append_nil _).symm⟩
  | cons arrival rest ih =>
    obtain ⟨place, result⟩ := arrival
    obtain ⟨fresh, others⟩ := List.nodup_cons.mp distinct
    obtain ⟨⟨task, placed, rfl⟩, later⟩ := List.forall_mem_cons.mp wait
    obtain ⟨done, leads⟩ := leads_delivery placed free
    have still : ∀ arrival ∈ rest, ∃ task,
        (pool.tasks.set place done)[arrival.1]? = some (.waiting task) ∧
          arrival.2 = task.result evaluator pool.budget application := by
      intro arrival member
      obtain ⟨task, there, value⟩ := later arrival member
      have elsewhere : place ≠ arrival.1 := fun same =>
        fresh (List.mem_map.mpr ⟨arrival, member, same.symm⟩)
      exact ⟨task, (List.getElem?_set_ne elsewhere).trans there, value⟩
    obtain ⟨next, onward, arrived⟩ := @ih (pool.holding place done pool.free _) others free still
    refine ⟨next, leads.trans onward, arrived.trans ?_⟩
    simp only [holding, List.append_assoc, List.singleton_append]

/-- Any deliveries of a plan, in any order, are what arrives in some run of the pool. -/
theorem exists_replay_of_subperm {plan : RunPlan} {limits : Limits}
    {arrivals : List (Nat × MatchResult)}
    (arrived : arrivals.Subperm (plan.deliveries evaluator limits.budget)) :
    ∃ steps next, (ofPlan limits plan).replay? steps = some next ∧
      (ofPlan limits plan).Follows evaluator plan.application steps ∧ next.arrivals = arrivals := by
  have waits : ∀ arrival ∈ arrivals, ∃ task,
      (ofPlan limits plan).tasks[arrival.1]? = some (.waiting task) ∧
        arrival.2 = task.result evaluator limits.budget plan.application := by
    intro arrival member
    obtain ⟨⟨task, place⟩, listed, rfl⟩ := List.mem_map.mp (arrived.subset member)
    have planned := List.mk_mem_zipIdx_iff_getElem?.mp listed
    refine ⟨task, ?_, rfl⟩
    rw [ofPlan, List.getElem?_map, planned, Option.map_some]
  obtain ⟨next, ⟨steps, replayed, follows⟩, arrives⟩ :=
    exists_leads (RunPlan.distinct_of_subperm arrived) limits.poolWidth_pos waits
  exact ⟨steps, next, replayed, follows, arrives⟩

end Pool

end Underwriting
