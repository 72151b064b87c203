import Underwriting.Proofs.Service.Judgement
import Underwriting.Proofs.Service.Ownership

/-! # Where the records come from

A record is as it was opened, or it says what a verdict said. So a property that all verdicts of a
history have is a property of whatever any record of the history says. The property is a parameter
here: it is shown of the verdicts that surroundings can give, and every atomic step carries it from
there through the runs on their course into the store.
-/

namespace Underwriting

/-- A record that is open, or was concluded by a verdict that is allowed. -/
def MatchRun.ComesFrom (run : MatchRun) (allowed : Verdict → Prop) : Prop :=
  run.IsOpen ∨ ∃ record verdict now,
    MatchRun.IsOpen record ∧ allowed verdict ∧ run = record.concluded verdict now

/-- What a run has in hand comes from a verdict that is allowed. -/
def Stage.ComesFrom (allowed : Verdict → Prop) : Stage → Prop
  | .judged verdict => allowed verdict
  | .finished done => done.ComesFrom allowed
  | .opened | .ended _ => True

/-- All records, and what runs on their course have in hand, come from verdicts that are allowed. -/
structure Service.ComesFrom (service : Service) (allowed : Verdict → Prop) : Prop where
  records : ∀ id run, service.runs.find? id = some run → run.ComesFrom allowed
  stages : ∀ flight ∈ service.flights, flight.stage.ComesFrom allowed

section Steps

variable {surroundings : Surroundings} {allowed : Verdict → Prop}

namespace Flight

variable {flight after : Flight} {store written : RunStore}

theorem Moves.comesFrom (moves : flight.Moves surroundings store after written)
    (judges : ∀ loan, allowed (surroundings.judge loan)) (owns : flight.Owns store)
    (stage : flight.stage.ComesFrom allowed) : after.stage.ComesFrom allowed := by
  cases moves with
  | judges => exact judges flight.loan
  | @finishes verdict record done judged found concluded =>
    obtain ⟨isOpen, rfl⟩ := owns.of_conclude judged found concluded
    rw [judged] at stage
    exact .inr ⟨record, verdict, surroundings.now, isOpen, stage, rfl⟩
  | writes => trivial
  | givesUp => trivial
  | rests => exact stage

theorem Moves.records_comeFrom (moves : flight.Moves surroundings store after written)
    (stage : flight.stage.ComesFrom allowed)
    (records : ∀ id run, store.find? id = some run → run.ComesFrom allowed) :
    ∀ id run, written.find? id = some run → run.ComesFrom allowed := by
  cases moves with
  | writes finished =>
    rw [finished] at stage
    intro id run found
    rw [Register.find?_put] at found
    split at found
    · rw [← Option.some.inj found]
      exact stage
    · exact records id run found
  | _ => exact records

end Flight

namespace Service

variable {source target : Service}

theorem comesFrom_new (allowed : Verdict → Prop) : new.ComesFrom allowed where
  records _ _ found := by cases found
  stages _ member := by cases member

theorem ComesFrom.step (step : AtomicStep surroundings source target)
    (judges : ∀ loan, allowed (surroundings.judge loan)) (owned : source.Owned)
    (before : source.ComesFrom allowed) : target.ComesFrom allowed := by
  cases step with
  | skips => exact ⟨before.records, before.stages⟩
  | opens loan free =>
    constructor
    · intro id run found
      simp only [withOpened, Register.find?_put] at found
      split at found
      · rw [← Option.some.inj found]
        exact .inl (MatchRun.isOpen_opened _ _ _)
      · exact before.records id run found
    · intro flight member
      rcases List.mem_append.mp member with member | new
      · exact before.stages flight member
      · rw [List.mem_singleton.mp new]
        trivial
  | @moves earlier rest flight after written split moves =>
    have member : flight ∈ source.flights := split ▸ mem_course_iff.mpr (.inl rfl)
    have stage := before.stages flight member
    refine ⟨moves.records_comeFrom stage before.records, ?_⟩
    intro other present
    rcases mem_course_iff.mp present with rfl | kept
    · exact moves.comesFrom judges (owned.owns flight member) stage
    · exact before.stages other (split ▸ mem_course_iff.mpr (.inr kept))
  | @forgets earlier rest flight split isOver =>
    refine ⟨before.records, fun other present => ?_⟩
    exact before.stages other (split ▸ mem_course_iff.mpr (.inr present))

theorem ComesFrom.path (path : Path surroundings source target)
    (judges : ∀ loan, allowed (surroundings.judge loan)) (owned : source.Owned)
    (before : source.ComesFrom allowed) : target.ComesFrom allowed := by
  induction path with
  | nil => exact before
  | cons step _ ih => exact ih (owned.step step) (before.step step judges owned)

end Service

end Steps

namespace World

variable {allowed : Verdict → Prop} {world : World}

/-- An event keeps to allowed verdicts what has kept to them before. -/
theorem comesFrom_step (judges : ∀ loan, allowed (world.verdict loan))
    (owned : world.service.Owned) (before : world.service.ComesFrom allowed) (event : Event) :
    (world.step event).service.ComesFrom allowed := by
  cases event with
  | move move now => exact before.path (world.service.path_move move) judges owned
  | edit | directoryOutage | storeOutage | evaluator => exact before

/-- Where a condition on the world lasts through the events and allows for all verdicts under it,
every record of the history comes from an allowed verdict. -/
theorem comesFrom_replay (holds : World → Prop) {events : List Event}
    (allows : ∀ world, holds world → ∀ loan, allowed (world.verdict loan))
    (lasts : ∀ world event, event ∈ events → holds world → holds (world.step event))
    (start : holds world) (owned : world.service.Owned)
    (before : world.service.ComesFrom allowed) :
    holds (world.replay events) ∧ (world.replay events).service.ComesFrom allowed := by
  induction events generalizing world with
  | nil => exact ⟨start, before⟩
  | cons event rest ih =>
    refine ih ?_ (lasts world event List.mem_cons_self start) (owned_step owned event).1
      (comesFrom_step (allows world start) owned before event)
    exact fun world later member => lasts world later (List.mem_cons_of_mem event member)

end World

/-- The event puts no evaluator in place that gives other results than those of the policies. -/
def Event.KeepsFaith : Event → Prop
  | .evaluator next => next.IsFaithful
  | .edit _ | .directoryOutage _ | .storeOutage _ | .move _ _ => True

/-- A property of all results that verdicts of faithful evaluators have is one of all results in the
records of a history with such evaluators, whatever is edited and whatever fails. -/
theorem World.results_replay {property : MatchResult → Prop}
    (judged : ∀ surroundings : Surroundings, surroundings.evaluator.IsFaithful → ∀ loan,
      ∀ result ∈ Verdict.results (surroundings.judge loan), property result)
    (catalog : Catalog) {evaluator : Evaluator} (faithful : evaluator.IsFaithful)
    (budget : Duration) {events : List Event} (keep : ∀ event ∈ events, event.KeepsFaith)
    {id : RunId} {run : MatchRun}
    (found : ((opened catalog evaluator budget).replay events).service.runs.find? id = some run) :
    ∀ result ∈ run.results, property result := by
  have allowed : ((opened catalog evaluator budget).replay events).service.ComesFrom
      fun verdict => ∀ result ∈ verdict.results, property result := by
    refine (comesFrom_replay (fun world => world.evaluator.IsFaithful) ?_ ?_ faithful
      Service.owned_new (Service.comesFrom_new _)).2
    · intro world faithful loan
      exact judged _ faithful loan
    · intro world event member before
      cases event with
      | evaluator next => exact keep _ member
      | edit | directoryOutage | storeOutage | move => exact before
  rcases allowed.records id run found with isOpen | ⟨record, verdict, now, -, allowed, rfl⟩
  · rw [isOpen]
    intro result member
    cases member
  · exact allowed

end Underwriting
