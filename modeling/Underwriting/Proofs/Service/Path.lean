import Underwriting.Proofs.Run.Course
import Underwriting.Proofs.Service.History

/-! # Paths of a service

Whatever a service is made to do, it does by atomic steps: a number is used up in vain, a run is
opened under a free number, one run takes one step of its course, or a run that has ended is
forgotten. A path is a chain of such steps, and every move of a service is a path; what an atomic
step preserves, every history preserves.
-/

namespace Underwriting

namespace Flight

/-- The course of a run has come to its end. -/
def IsOver (flight : Flight) : Prop := ∃ outcome, flight.stage = .ended outcome

/-- Three steps bring every run to its end. -/
theorem isOver_of_three_steps (surroundings : Surroundings) (flight : Flight)
    (first second third : RunStore) :
    IsOver ((((flight.step surroundings first).1.step surroundings second).1.step
      surroundings third).1) := by
  obtain ⟨run, loan, stage⟩ := flight
  have finished (done : MatchRun) (store : RunStore) :
      IsOver ((⟨run, loan, .finished done⟩ : Flight).step surroundings store).1 := by
    simp only [step]
    split <;> exact ⟨_, rfl⟩
  have ended {flight : Flight} (isOver : flight.IsOver) (store : RunStore) :
      IsOver (flight.step surroundings store).1 := by
    obtain ⟨outcome, at_end⟩ := isOver
    simp only [step, at_end]
    exact ⟨outcome, rfl⟩
  have judged (verdict : Verdict) (second third : RunStore) :
      IsOver (((⟨run, loan, .judged verdict⟩ : Flight).step surroundings second).1.step
        surroundings third).1 := by
    have next := moves_step surroundings ⟨run, loan, .judged verdict⟩ second
    generalize step surroundings ⟨run, loan, .judged verdict⟩ second = stepped at next ⊢
    obtain ⟨flight, store⟩ := stepped
    cases next with
    | judges opened => cases opened
    | finishes => exact finished _ third
    | writes stage => cases stage
    | givesUp => exact ended ⟨_, rfl⟩ third
    | rests stage => cases stage
  cases stage with
  | opened => exact judged _ second third
  | judged verdict => exact ended (judged verdict first second) third
  | finished done => exact ended (ended (finished done first) second) third
  | ended outcome => exact ended (ended (ended ⟨outcome, rfl⟩ first) second) third

end Flight

namespace Service

variable {surroundings : Surroundings}

/-- The service with a run that was opened and begins its course. -/
def withOpened (service : Service) (surroundings : Surroundings) (loan : LoanId) : Service where
  nextRun := service.nextRun + 1
  runs := service.runs.put ⟨service.nextRun⟩ (service.nextOpened surroundings loan)
  flights := service.flights ++ [⟨⟨service.nextRun⟩, loan, .opened⟩]

theorem find?_withOpened (service : Service) (loan : LoanId) :
    (service.withOpened surroundings loan).runs.find? ⟨service.nextRun⟩ =
      some (service.nextOpened surroundings loan) := by
  rw [withOpened, Register.find?_put, if_pos rfl]

/-- A run that is opened takes the next number, which was free. -/
theorem openRun_eq_ok {service : Service} {loan : LoanId} {run : MatchRun}
    (opened : (service.openRun surroundings loan).1 = .ok run) :
    service.HasFreeNumber ∧ run = service.nextOpened surroundings loan := by
  rcases service.openRun_cases surroundings loan with ⟨cause, refused⟩ | ⟨free, filed⟩
  · rw [refused] at opened
    cases opened
  · rw [filed] at opened
    exact ⟨free, (Except.ok.inj opened).symm⟩

theorem startRun_of_opened {service : Service} {loan : LoanId} {run : MatchRun}
    (opened : (service.openRun surroundings loan).1 = .ok run) :
    service.startRun surroundings loan = (.ok run, service.withOpened surroundings loan) := by
  rcases service.openRun_cases surroundings loan with ⟨cause, refused⟩ | ⟨-, filed⟩
  · rw [refused] at opened
    cases opened
  · rw [(openRun_eq_ok opened).2]
    simp only [startRun, filed]
    rfl

/-- The runs on their course, one of them singled out. -/
theorem mem_course_iff {before rest : List Flight} {flight other : Flight} :
    other ∈ before ++ flight :: rest ↔ other = flight ∨ other ∈ before ++ rest :=
  List.perm_middle.mem_iff.trans List.mem_cons

/-- One atomic step of a service. -/
inductive AtomicStep (surroundings : Surroundings) (service : Service) : Service → Prop
  | skips : AtomicStep surroundings service { service with nextRun := service.nextRun + 1 }
  | opens (loan : LoanId) : service.HasFreeNumber →
      AtomicStep surroundings service (service.withOpened surroundings loan)
  | moves {before rest : List Flight} {flight after : Flight} {written : RunStore} :
      service.flights = before ++ flight :: rest →
      flight.Moves surroundings service.runs after written →
      AtomicStep surroundings service
        { service with runs := written, flights := before ++ after :: rest }
  | forgets {before rest : List Flight} {flight : Flight} :
      service.flights = before ++ flight :: rest → flight.IsOver →
      AtomicStep surroundings service { service with flights := before ++ rest }

/-- Atomic steps one after the other. -/
inductive Path (surroundings : Surroundings) : Service → Service → Prop
  | nil (service : Service) : Path surroundings service service
  | cons {source middle target : Service} :
      AtomicStep surroundings source middle → Path surroundings middle target →
      Path surroundings source target

namespace Path

variable {source middle target : Service}

theorem append (left : Path surroundings source middle) (right : Path surroundings middle target) :
    Path surroundings source target := by
  induction left with
  | nil => exact right
  | cons step _ ih => exact .cons step (ih right)

theorem single (step : AtomicStep surroundings source target) : Path surroundings source target :=
  .cons step (.nil target)

end Path

/-- Letting a run end is a path: its steps, and then it is forgotten. -/
theorem path_land (service : Service) (before rest : List Flight) (flight : Flight)
    (split : service.flights = before ++ flight :: rest) :
    Path surroundings service
      { service with
        runs := (flight.land surroundings service.runs).2
        flights := before ++ rest } := by
  let first := flight.step surroundings service.runs
  let second := first.1.step surroundings first.2
  let third := second.1.step surroundings second.2
  have isOver : third.1.IsOver := Flight.isOver_of_three_steps surroundings flight _ _ _
  have landed : (flight.land surroundings service.runs).2 = third.2 := by
    obtain ⟨outcome, at_end⟩ := isOver
    simp only [Flight.land]
    split
    · rfl
    · rfl
  rw [landed]
  refine .cons (.moves split (flight.moves_step surroundings service.runs)) ?_
  refine .cons (.moves rfl (first.1.moves_step surroundings first.2)) ?_
  refine .cons (.moves rfl (second.1.moves_step surroundings second.2)) ?_
  exact .single (.forgets rfl isOver)

theorem path_advance (service : Service) (place : Nat) :
    Path surroundings service (service.advance surroundings place) := by
  unfold advance
  split
  · exact .nil service
  · rename_i flight present
    obtain ⟨inRange, rfl⟩ := List.getElem?_eq_some_iff.mp present
    obtain ⟨before, rest, split, -, replaced⟩ := @List.exists_of_set _ _
      (service.flights[place].step surroundings service.runs).1 _ inRange
    rw [replaced]
    exact .single (.moves split (Flight.moves_step surroundings _ service.runs))

theorem path_settle (service : Service) :
    Path surroundings service (service.settle surroundings) := by
  obtain ⟨nextRun, runs, flights⟩ := service
  induction flights generalizing runs with
  | nil => exact .nil _
  | cons flight rest ih => exact (path_land _ [] rest flight rfl).append (ih _)

theorem path_startRun (service : Service) (loan : LoanId) :
    Path surroundings service (service.startRun surroundings loan).2 := by
  rcases service.openRun_cases surroundings loan with ⟨cause, refused⟩ | ⟨free, filed⟩
  · simp only [startRun, refused]
    exact .single .skips
  · rw [startRun_of_opened (congrArg Prod.fst filed)]
    exact .single (.opens loan free)

/-- A run that is opened and ends at once goes by the opened run. -/
theorem path_runMatch_of_opened {service : Service} {loan : LoanId} {run : MatchRun}
    (opened : (service.openRun surroundings loan).1 = .ok run) :
    Path surroundings (service.withOpened surroundings loan)
      (service.runMatch surroundings loan).2 := by
  rcases service.openRun_cases surroundings loan with ⟨cause, refused⟩ | ⟨-, filed⟩
  · rw [refused] at opened
    cases opened
  · simp only [runMatch, filed]
    have landed : Path surroundings (service.withOpened surroundings loan) _ :=
      path_land (service.withOpened surroundings loan) service.flights [] _ rfl
    rw [List.append_nil] at landed
    exact landed

theorem path_runMatch (service : Service) (loan : LoanId) :
    Path surroundings service (service.runMatch surroundings loan).2 := by
  rcases service.openRun_cases surroundings loan with ⟨cause, refused⟩ | ⟨free, filed⟩
  · simp only [runMatch, refused]
    exact .single .skips
  · exact .cons (.opens loan free) (path_runMatch_of_opened (congrArg Prod.fst filed))

/-- Every move of a service is a path. -/
theorem path_move (service : Service) (move : ServiceMove) :
    Path surroundings service (service.move surroundings move) := by
  cases move with
  | startRun loan => exact service.path_startRun loan
  | advance place => exact service.path_advance place
  | settle => exact service.path_settle
  | runMatch loan => exact service.path_runMatch loan
  | getRun id => exact .nil service

/-- A move that opens a run gives it the next number, which was free, and goes by the opened run. -/
theorem path_of_opens {service : Service} {move : ServiceMove} {id : RunId}
    (opens : service.opens? surroundings move = some id) :
    service.HasFreeNumber ∧ id = ⟨service.nextRun⟩ ∧ ∃ loan,
      Path surroundings (service.withOpened surroundings loan)
        (service.move surroundings move) := by
  have opened_of {loan : LoanId}
      (opens : (service.openRun surroundings loan).1.toOption.map (·.id) = some id) :
      ∃ run, (service.openRun surroundings loan).1 = .ok run ∧ run.id = id := by
    cases answer : (service.openRun surroundings loan).1 with
    | error cause =>
      rw [answer] at opens
      cases opens
    | ok run =>
      rw [answer] at opens
      exact ⟨run, rfl, Option.some.inj opens⟩
  cases move with
  | startRun loan =>
    obtain ⟨run, opened, rfl⟩ := opened_of opens
    obtain ⟨free, rfl⟩ := openRun_eq_ok opened
    refine ⟨free, rfl, loan, ?_⟩
    rw [move, startRun_of_opened opened]
    exact .nil _
  | runMatch loan =>
    obtain ⟨run, opened, rfl⟩ := opened_of opens
    obtain ⟨free, rfl⟩ := openRun_eq_ok opened
    exact ⟨free, rfl, loan, path_runMatch_of_opened opened⟩
  | advance | settle | getRun => cases opens

end Service

end Underwriting
