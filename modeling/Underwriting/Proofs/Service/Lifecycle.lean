import Underwriting.Directory.Seed
import Underwriting.Proofs.Service.Judgement
import Underwriting.Proofs.Service.Ownership

/-! # The lifecycle of a run

What a record says fits its status: a running record says nothing yet, a complete one has results in
strictly ascending order of their programs, and a failed one has the cause of its failure. With
evaluators that answer for the program they were given, every atomic step preserves this, and so
does every history. No number is given to two runs, and a record that has ended stays as it is.
-/

namespace Underwriting

/-- A verdict with results names each program once, in ascending order, and at least one. -/
structure Verdict.IsSound (verdict : Verdict) : Prop where
  ascending : ProgramId.Ascending (verdict.results.map (·.program))
  nonempty : verdict.status = .complete → verdict.results ≠ []

namespace Surroundings

theorem isSound_judge {surroundings : Surroundings}
    (answers : surroundings.evaluator.AnswersForProgram) (loan : LoanId) :
    Verdict.IsSound (surroundings.judge loan) := by
  refine ⟨ascending_results answers loan, ?_⟩
  intro complete
  cases judged : surroundings.judge loan with
  | ok results =>
    rw [← judged]
    exact results_ne_nil judged
  | error cause =>
    rw [judged] at complete
    cases complete

end Surroundings

namespace MatchRun

/-- What a record says fits its status. -/
def IsWellFormed (run : MatchRun) : Prop :=
  match run.status with
  | .running => run.results = [] ∧ run.failure? = none ∧ run.completedAt? = none
  | .complete => run.results ≠ [] ∧ ProgramId.Ascending (run.results.map (·.program)) ∧
      run.failure? = none ∧ run.completedAt?.isSome = true
  | .failed => run.results = [] ∧ (∃ message, run.failure? = some ⟨.runPrecondition, message⟩) ∧
      run.completedAt?.isSome = true

theorem IsOpen.isWellFormed {run : MatchRun} (isOpen : run.IsOpen) : run.IsWellFormed := by
  rw [isOpen]
  exact ⟨rfl, rfl, rfl⟩

/-- A record that is concluded by a sound verdict says what fits its status. -/
theorem isWellFormed_concluded {verdict : Verdict} (sound : verdict.IsSound) (run : MatchRun)
    (now : Timestamp) : (run.concluded verdict now).IsWellFormed := by
  cases verdict with
  | ok results => exact ⟨sound.nonempty rfl, sound.ascending, rfl, rfl⟩
  | error cause => exact ⟨rfl, ⟨cause.message, rfl⟩, rfl⟩

end MatchRun

/-- What a run is about to write is sound. -/
def Stage.IsSound : Stage → Prop
  | .judged verdict => Verdict.IsSound verdict
  | .finished done => done.IsWellFormed
  | .opened | .ended _ => True

/-- Every record says what fits its status, and runs on their course will write such records. -/
structure Service.Sound (service : Service) : Prop where
  records : ∀ id run, service.runs.find? id = some run → run.IsWellFormed
  stages : ∀ flight ∈ service.flights, flight.stage.IsSound

namespace Flight

variable {surroundings : Surroundings} {flight after : Flight} {store written : RunStore}

/-- What a run finds out and makes of it is sound. -/
theorem Moves.isSound (moves : flight.Moves surroundings store after written)
    (answers : surroundings.evaluator.AnswersForProgram) (owns : flight.Owns store)
    (sound : flight.stage.IsSound) : after.stage.IsSound := by
  cases moves with
  | judges => exact surroundings.isSound_judge answers flight.loan
  | finishes stage found concluded =>
    rw [stage] at sound
    rw [(owns.of_conclude stage found concluded).2]
    exact MatchRun.isWellFormed_concluded sound _ _
  | writes => trivial
  | givesUp => trivial
  | rests => exact sound

/-- The records stay sound: what a run writes was sound before. -/
theorem Moves.records (moves : flight.Moves surroundings store after written)
    (sound : flight.stage.IsSound)
    (records : ∀ id run, store.find? id = some run → run.IsWellFormed) :
    ∀ id run, written.find? id = some run → run.IsWellFormed := by
  cases moves with
  | writes stage =>
    rw [stage] at sound
    intro id run found
    rw [Register.find?_put] at found
    split at found
    · rw [← Option.some.inj found]
      exact sound
    · exact records id run found
  | _ => exact records

end Flight

namespace Service

variable {surroundings : Surroundings} {source target : Service}

theorem sound_new : new.Sound where
  records _ _ found := by cases found
  stages _ member := by cases member

/-- Every atomic step preserves soundness. -/
theorem Sound.step (step : AtomicStep surroundings source target)
    (answers : surroundings.evaluator.AnswersForProgram) (owned : source.Owned)
    (sound : source.Sound) : target.Sound := by
  cases step with
  | skips => exact ⟨sound.records, sound.stages⟩
  | opens loan free =>
    refine ⟨?_, ?_⟩
    · intro id run found
      simp only [withOpened, Register.find?_put] at found
      split at found
      · rw [← Option.some.inj found]
        exact (MatchRun.isOpen_opened _ _ _).isWellFormed
      · exact sound.records id run found
    · intro flight member
      rcases List.mem_append.mp member with member | new
      · exact sound.stages flight member
      · rw [List.mem_singleton.mp new]
        trivial
  | @moves before rest flight after written split moves =>
    have member : flight ∈ source.flights := split ▸ mem_course_iff.mpr (.inl rfl)
    refine ⟨moves.records (sound.stages flight member) sound.records, ?_⟩
    intro other present
    rcases mem_course_iff.mp present with rfl | kept
    · exact moves.isSound answers (owned.owns flight member) (sound.stages flight member)
    · exact sound.stages other (split ▸ mem_course_iff.mpr (.inr kept))
  | @forgets before rest flight split isOver =>
    exact ⟨sound.records, fun other present =>
      sound.stages other (split ▸ mem_course_iff.mpr (.inr present))⟩

theorem Sound.path (path : Path surroundings source target)
    (answers : surroundings.evaluator.AnswersForProgram) (owned : source.Owned)
    (sound : source.Sound) : target.Sound := by
  induction path with
  | nil => exact sound
  | cons step _ ih => exact ih (owned.step step) (sound.step step answers owned)

end Service

/-- An event puts no evaluator in place that answers for other programs than it was given. -/
def Event.AnswersForProgram : Event → Prop
  | .evaluator next => next.AnswersForProgram
  | .edit _ | .directoryOutage _ | .storeOutage _ | .move _ _ => True

namespace World

variable {world : World}

/-- Records are in the hands of their runs and say what fits their status. -/
structure IsLawful (world : World) : Prop where
  evaluator : world.evaluator.AnswersForProgram
  owned : world.service.Owned
  sound : world.service.Sound

theorem isLawful_opened {evaluator : Evaluator} (answers : evaluator.AnswersForProgram)
    (catalog : Catalog) (budget : Duration) : (opened catalog evaluator budget).IsLawful :=
  ⟨answers, Service.owned_new, Service.sound_new⟩

theorem IsLawful.step (lawful : world.IsLawful) {event : Event}
    (answers : event.AnswersForProgram) : (world.step event).IsLawful := by
  obtain ⟨owned, -⟩ := owned_step lawful.owned event
  cases event with
  | move move now =>
    exact ⟨lawful.evaluator, owned,
      lawful.sound.path (world.service.path_move move) lawful.evaluator lawful.owned⟩
  | evaluator => exact ⟨answers, owned, lawful.sound⟩
  | edit | directoryOutage | storeOutage => exact ⟨lawful.evaluator, owned, lawful.sound⟩

theorem IsLawful.replay (lawful : world.IsLawful) {events : List Event}
    (answers : ∀ event ∈ events, event.AnswersForProgram) : (world.replay events).IsLawful := by
  induction events generalizing world with
  | nil => exact lawful
  | cons event rest ih =>
    refine ih (lawful.step (answers event List.mem_cons_self)) ?_
    exact fun later member => answers later (List.mem_cons_of_mem event member)

/-- Whatever happens to a new service, every record stands under its own number and says what fits
its status, no number is given to two runs, and whatever happens next, every record stays and
changes only by being finished once. -/
theorem replay_keeps_lifecycle (catalog : Catalog) (budget : Duration) {evaluator : Evaluator}
    (answers : evaluator.AnswersForProgram) (history later : List Event)
    (historyAnswers : ∀ event ∈ history, event.AnswersForProgram) :
    let start := opened catalog evaluator budget
    let reached := start.replay history
    (∀ id run, reached.service.runs.find? id = some run → run.id = id ∧ run.IsWellFormed) ∧
      (start.openedRuns history).Nodup ∧
      reached.service.runs.Evolves (reached.replay later).service.runs := by
  intro start reached
  have lawful : reached.IsLawful := (isLawful_opened answers catalog budget).replay historyAnswers
  refine ⟨?_, (nodup_openedRuns Service.owned_new history).1, (owned_replay lawful.owned later).2⟩
  intro id run found
  exact ⟨lawful.owned.filed id run found, lawful.sound.records id run found⟩

/-- Two runs are started, the store refuses what the first one writes, the second one goes on, and
a third one meets a directory that fails. -/
def stormyHistory : List Event :=
  [.edit (.fileApplication Seed.sampleLoan (Seed.application 50000 36 690)),
    .move (.startRun Seed.sampleLoan) .epoch, .move (.startRun Seed.sampleLoan) .epoch,
    .move (.advance 0) .epoch, .move (.advance 0) .epoch, .move (.advance 1) .epoch,
    .storeOutage ⟨none, some .conflict, none, false⟩, .move (.advance 0) .epoch,
    .storeOutage .none, .move .settle .epoch,
    .directoryOutage ⟨some .notFound, none, [], [], none⟩,
    .move (.runMatch Seed.sampleLoan) .epoch, .move (.getRun ⟨2⟩) .epoch]

theorem replay_keeps_lifecycle_stormy :
    let start := opened Seed.catalog .engine (.ofMilliseconds 2000)
    let reached := start.replay stormyHistory
    (∀ id run, reached.service.runs.find? id = some run → run.id = id ∧ run.IsWellFormed) ∧
      (start.openedRuns stormyHistory).Nodup ∧
      reached.service.runs.Evolves (reached.replay stormyHistory).service.runs := by
  refine replay_keeps_lifecycle Seed.catalog (.ofMilliseconds 2000)
    Evaluator.isFaithful_engine.answersForProgram stormyHistory stormyHistory ?_
  simp only [stormyHistory, List.forall_mem_cons, Event.AnswersForProgram, List.not_mem_nil,
    true_and, false_implies, implies_true]

end World

end Underwriting
