import Underwriting.Directory.Seed
import Underwriting.Proofs.ProgramOrder
import Underwriting.Proofs.Run.Conclusion
import Underwriting.Proofs.Service.Collection
import Underwriting.Run.Closing

/-! # A run is closed once

The first call that meets a running run closes it, whatever is written in the run besides; every
other call is refused with the number and the status of the run and leaves all of it as it is. So a
run that was called any number of times is as its first call left it. A run that is completed has
the results that it was given, none lost and none twice, in the order of their programs and stable.
-/

namespace Underwriting

/-- Results in the ascending order of their programs: none of those given is lost and none is there
twice, and the results of one program keep their order. -/
structure MatchResult.InProgramOrder (given sorted : List MatchResult) : Prop where
  perm : sorted.Perm given
  ascending : sorted.Pairwise fun first second => first.program.value ≤ second.program.value
  stable : ∀ id, sorted.filter (·.program = id) = given.filter (·.program = id)

namespace MatchRun

theorem inProgramOrder_sortResults (results : List MatchResult) :
    MatchResult.InProgramOrder results (sortResults results) where
  perm := sortByProgram_perm MatchResult.program results
  ascending := (sortByProgram_pairwise MatchResult.program results).imp ProgramId.atMost_iff.mp
  stable id := filter_sortByProgram MatchResult.program results id

/-- What a call makes of the run that it closes. All that it does not write is kept. -/
inductive ClosedBy (run : MatchRun) (now : Timestamp) : Closing → MatchRun → Prop
  | complete {results sorted : List MatchResult} : MatchResult.InProgramOrder results sorted →
      ClosedBy run now (.complete results)
        { run with results := sorted, status := .complete, completedAt? := some now }
  | fail (failure : EngineFault) :
      ClosedBy run now (.fail failure)
        { run with
          results := [], failure? := some failure, status := .failed, completedAt? := some now }

section OneCall

variable {run done : MatchRun} {closing : Closing} {now : Timestamp}

theorem ClosedBy.id (closed : run.ClosedBy now closing done) : done.id = run.id := by
  cases closed <;> rfl

theorem ClosedBy.isTerminal (closed : run.ClosedBy now closing done) :
    done.status.isTerminal = true := by
  cases closed <;> rfl

/-- The transition of the whole run that a call amounts to. -/
def close (run : MatchRun) (now : Timestamp) : Closing → Except TransitionError MatchRun
  | .complete results => run.complete results now
  | .fail failure => run.fail failure now

theorem close_of_isTerminal (isTerminal : run.status.isTerminal = true) :
    run.close now closing = .error ⟨run.id, run.status⟩ := by
  cases closing <;> simp only [close, complete, fail, isTerminal, ↓reduceIte]

theorem close_of_running (running : run.status.isTerminal = false) :
    ∃ done, run.close now closing = .ok done ∧ run.ClosedBy now closing done := by
  cases closing with
  | complete results =>
    exact ⟨_, by simp only [close, complete, running, Bool.false_eq_true, ↓reduceIte],
      .complete (inProgramOrder_sortResults results)⟩
  | fail failure =>
    exact ⟨_, by simp only [close, fail, running, Bool.false_eq_true, ↓reduceIte], .fail failure⟩

/-- Field by field a call does what the transition does at once, and nothing if that is refused. -/
theorem receive_eq (run : MatchRun) (closing : Closing) (now : Timestamp) :
    run.receive closing now = match run.close now closing with
      | .ok done => (.ok (), done)
      | .error error => (.error error, run) := by
  cases closing <;> cases terminal : run.status.isTerminal <;>
    simp only [receive, Action.ofClosing, Action.on_bind, Action.ensureRunning_on,
      Action.writeResults_on, Action.writeFailure_on, Action.writeEnd_on, close, complete, fail,
      terminal, Bool.false_eq_true, ↓reduceIte]

theorem receive_of_isTerminal (isTerminal : run.status.isTerminal = true) (closing : Closing)
    (now : Timestamp) : run.receive closing now = (.error ⟨run.id, run.status⟩, run) := by
  rw [receive_eq, close_of_isTerminal isTerminal]

/-- But for the instants a run does not show when it was closed. -/
theorem untimed_receive (run : MatchRun) (closing : Closing) (now later : Timestamp) :
    (run.receive closing now).2.untimed = (run.receive closing later).2.untimed := by
  rw [receive_eq, receive_eq]
  cases closing <;> cases terminal : run.status.isTerminal <;>
    simp [close, complete, fail, terminal, untimed]

end OneCall

section Calls

variable {run done : MatchRun} {closing : Closing} {now : Timestamp}

/-- A run that is complete or failed refuses every call and stays as it is. -/
theorem receiveAll_of_isTerminal (isTerminal : run.status.isTerminal = true)
    (calls : List (Closing × Timestamp)) :
    run.receiveAll calls = (List.replicate calls.length (.error ⟨run.id, run.status⟩), run) := by
  induction calls with
  | nil => rfl
  | cons call rest ih =>
    simp only [receiveAll, receive_of_isTerminal isTerminal, ih, List.length_cons,
      List.replicate_succ]

/-- A running run accepts the first call, which closes it, and no further one. -/
theorem receiveAll_of_running (running : run.status.isTerminal = false) (closing : Closing)
    (now : Timestamp) (rest : List (Closing × Timestamp)) :
    ∃ done, run.ClosedBy now closing done ∧
      run.receiveAll ((closing, now) :: rest) =
        (.ok () :: List.replicate rest.length (.error ⟨run.id, done.status⟩), done) := by
  obtain ⟨done, closes, closed⟩ := @close_of_running run closing now running
  refine ⟨done, closed, ?_⟩
  simp only [receiveAll, receive_eq, closes, receiveAll_of_isTerminal closed.isTerminal, closed.id]

/-- After any calls a run is as the first of them left it. -/
theorem receiveAll_cons_snd (run : MatchRun) (closing : Closing) (now : Timestamp)
    (rest : List (Closing × Timestamp)) :
    (run.receiveAll ((closing, now) :: rest)).2 = (run.receive closing now).2 := by
  have terminal : (run.receive closing now).2.status.isTerminal = true := by
    cases terminal : run.status.isTerminal with
    | true => rwa [receive_of_isTerminal terminal]
    | false =>
      obtain ⟨done, closes, closed⟩ := @close_of_running run closing now terminal
      rw [receive_eq, closes]
      exact closed.isTerminal
  simp only [receiveAll, receiveAll_of_isTerminal terminal]

end Calls

/-- A run that is complete or failed refuses all calls with its number and status and keeps every
field. A running one accepts the first call, which writes all of the new fields and no other, and
then refuses the rest. So after any calls a run is as after the first of them, and but for the
instants this does not hang on when the calls were made. -/
theorem receiveAll_closes_once (run : MatchRun) :
    (run.status.isTerminal = true → ∀ calls,
      run.receiveAll calls = (List.replicate calls.length (.error ⟨run.id, run.status⟩), run)) ∧
    (run.status.isTerminal = false → ∀ closing now rest, ∃ done,
      run.ClosedBy now closing done ∧
        run.receiveAll ((closing, now) :: rest) =
          (.ok () :: List.replicate rest.length (.error ⟨run.id, done.status⟩), done)) ∧
    ∀ closing now rest,
      (run.receiveAll ((closing, now) :: rest)).2 = (run.receiveAll [(closing, now)]).2 ∧
      ∀ later, (run.receiveAll ((closing, now) :: rest)).2.untimed =
        (run.receiveAll [(closing, later)]).2.untimed := by
  refine ⟨receiveAll_of_isTerminal, receiveAll_of_running, fun closing now rest => ?_⟩
  simp only [receiveAll_cons_snd, true_and]
  exact untimed_receive run closing now

/-- A result of a program with a score. -/
def scored (program : UInt64) (fitScore : Binary64) : MatchResult :=
  ⟨⟨1⟩, ⟨program⟩, true, fitScore, [], ⟨[], [], true, true⟩, none⟩

/-- A running run in which a result and a failure are written already. -/
def scribbled : MatchRun :=
  ⟨⟨3⟩, Seed.sampleLoan, .running, [scored 9 100], some ⟨.runPrecondition, "none"⟩, .epoch, none⟩

/-- Calls of which the first one completes with two results of one program. -/
def threeCalls : List (Closing × Timestamp) :=
  [(.complete [scored 3 70, scored 1 90, scored 1 80], .epoch),
    (.fail ⟨.runPrecondition, "late"⟩, .epoch), (.complete [], .epoch)]

theorem receiveAll_closes_once_scribbled :
    let refused : Except TransitionError Unit := .error ⟨⟨3⟩, .complete⟩
    ∃ done, scribbled.receiveAll threeCalls = ([.ok (), refused, refused], done) ∧
      done.results.filter (·.program = ⟨1⟩) = [scored 1 90, scored 1 80] ∧
      done.results.length = 3 ∧ done.failure? = scribbled.failure? ∧
      done.receiveAll threeCalls = ([refused, refused, refused], done) := by
  intro refused
  obtain ⟨-, running, -⟩ := receiveAll_closes_once scribbled
  obtain ⟨done, closed, answered⟩ := running rfl
    (.complete [scored 3 70, scored 1 90, scored 1 80]) .epoch threeCalls.tail
  cases closed with
  | complete ordered =>
    refine ⟨_, answered, ?_, ordered.perm.length_eq, rfl, ?_⟩
    · rw [ordered.stable]
      decide +kernel
    · exact (receiveAll_closes_once _).1 rfl threeCalls

end MatchRun

end Underwriting
