import Underwriting.Run.Basic

/-!
# Closing a run

A run is closed in place by one of two calls, with results or with the cause of its failure. A call
first looks whether the run is still running and then writes its fields one after the other, so a
call that is refused has written nothing.
-/

namespace Underwriting

/-- A call that closes a run. -/
inductive Closing
  | complete (results : List MatchResult)
  | fail (failure : EngineFault)
deriving DecidableEq

namespace MatchRun

/-- Something that is done to a run in place. A refusal ends it and undoes nothing. -/
abbrev Action := ExceptT TransitionError (StateM MatchRun)

namespace Action

/-- The answer of what is done, and the run behind it. -/
def on (action : Action Unit) (run : MatchRun) : Except TransitionError Unit × MatchRun :=
  action.run.run run

/-- Refuses to go on with a run that is complete or failed. -/
def ensureRunning : Action Unit := do
  let run ← get
  if run.status.isTerminal then throw ⟨run.id, run.status⟩

/-- Writes the results of a run. -/
def writeResults (results : List MatchResult) : Action Unit :=
  modify fun run => { run with results := results }

/-- Writes the cause of a failure. -/
def writeFailure (failure : EngineFault) : Action Unit :=
  modify fun run => { run with failure? := some failure }

/-- Writes the status in which a run ends, and when it ended. -/
def writeEnd (status : RunStatus) (now : Timestamp) : Action Unit := do
  modify fun run => { run with status := status }
  modify fun run => { run with completedAt? := some now }

/-- What a call does at an instant. -/
def ofClosing (now : Timestamp) : Closing → Action Unit
  | .complete results => do
    ensureRunning
    writeResults (sortResults results)
    writeEnd .complete now
  | .fail failure => do
    ensureRunning
    writeResults []
    writeFailure failure
    writeEnd .failed now

section Effects

variable (run : MatchRun)

/-- What follows is done to the run as it was left, unless there was a refusal. -/
theorem on_bind (first : Action Unit) (next : Unit → Action Unit) :
    (first >>= next).on run = match first.on run with
      | (.ok _, left) => (next ()).on left
      | (.error error, left) => (.error error, left) := by
  simp only [on, ExceptT.run_bind, StateT.run_bind]
  rcases (first.run.run run : Except TransitionError Unit × MatchRun) with
    ⟨answer | answer, left⟩ <;> rfl

theorem ensureRunning_on : ensureRunning.on run =
    if run.status.isTerminal then (.error ⟨run.id, run.status⟩, run) else (.ok (), run) := by
  change on (if run.status.isTerminal then throw ⟨run.id, run.status⟩ else pure ()) run = _
  split <;> rfl

theorem writeResults_on (results : List MatchResult) :
    (writeResults results).on run = (.ok (), { run with results := results }) := rfl

theorem writeFailure_on (failure : EngineFault) :
    (writeFailure failure).on run = (.ok (), { run with failure? := some failure }) := rfl

theorem writeEnd_on (status : RunStatus) (now : Timestamp) :
    (writeEnd status now).on run =
      (.ok (), { run with status := status, completedAt? := some now }) := rfl

end Effects

end Action

/-- The answer to a call, and the run behind it. -/
def receive (run : MatchRun) (closing : Closing) (now : Timestamp) :
    Except TransitionError Unit × MatchRun :=
  (Action.ofClosing now closing).on run

/-- The answers to calls one after the other, and the run behind them. -/
def receiveAll (run : MatchRun) :
    List (Closing × Timestamp) → List (Except TransitionError Unit) × MatchRun
  | [] => ([], run)
  | (closing, now) :: rest =>
    let (answer, next) := run.receive closing now
    let (answers, last) := next.receiveAll rest
    (answer :: answers, last)

end MatchRun

end Underwriting
