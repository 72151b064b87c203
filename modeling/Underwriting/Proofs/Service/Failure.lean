import Underwriting.Directory.Seed
import Underwriting.Proofs.Service.FirstStep

/-! # Runs that fail

The store may fail to file a run, to find its record, or to take the finished record. Whichever
happens, nothing half done is left: a run that is refused leaves no record, and a run that is broken
off leaves the record as it was filed. The same holds of a run in the background, whose steps have
failures of their own and come between those of other runs.
-/

namespace Underwriting

/-- A store has a run that it had not, under a number that was free, and is otherwise as it was. -/
structure RunStore.Gains (before after : RunStore) (run : MatchRun) : Prop where
  free : before.find? run.id = none
  gained : after.find? run.id = some run
  others : ∀ id, id ≠ run.id → after.find? id = before.find? id

theorem RunStore.gains_put {store : RunStore} {run : MatchRun} (free : store.find? run.id = none) :
    store.Gains (store.put run.id run) run where
  free := free
  gained := by rw [Register.find?_put, if_pos rfl]
  others id other := by rw [Register.find?_put, if_neg other]

namespace Flight

variable {surroundings : Surroundings} {flight after : Flight} {store written : RunStore}

/-- A run has not written its record. -/
def IsUnwritten (flight : Flight) : Prop := ∀ done, flight.stage ≠ .ended (.ok done)

theorem isUnwritten_of_failed {failure : ServiceError}
    (failed : flight.outcome? = some (.error failure)) : flight.IsUnwritten := by
  intro done written
  rw [outcome?, written] at failed
  cases failed

/-- A run that has not written its record after a step had not before, and has left the store
alone. -/
theorem Moves.of_isUnwritten (moves : flight.Moves surroundings store after written)
    (unwritten : after.IsUnwritten) : flight.IsUnwritten ∧ written = store := by
  cases moves with
  | judges stage | finishes stage =>
    refine ⟨?_, rfl⟩
    intro done atEnd
    rw [stage] at atEnd
    cases atEnd
  | writes => exact absurd rfl (unwritten _)
  | givesUp _ onCourse => exact ⟨fun done => onCourse _, rfl⟩
  | rests => exact ⟨unwritten, rfl⟩

end Flight

/-- A record is as it was opened, or as a verdict finishes it. -/
def MatchRun.IsWhole (opened record : MatchRun) : Prop :=
  record = opened ∨ ∃ verdict now, record = opened.concluded verdict now

/-- The record of an opened run is whole, and as it was opened as long as the run has not written
it. -/
structure Service.KeepsWhole (service : Service) (opened : MatchRun) : Prop where
  record : ∃ record, service.runs.find? opened.id = some record ∧ opened.IsWhole record
  unwritten : ∀ flight ∈ service.flights, flight.run = opened.id → flight.IsUnwritten →
    service.runs.find? opened.id = some opened

namespace Service

variable {surroundings : Surroundings} {source target : Service} {opened : MatchRun}

/-- Every atomic step keeps the record of an opened run whole. -/
theorem KeepsWhole.step (step : AtomicStep surroundings source target) (owned : source.Owned)
    (whole : source.KeepsWhole opened) : target.KeepsWhole opened := by
  obtain ⟨record, found, isWhole⟩ := whole.record
  cases step with
  | skips => exact ⟨whole.record, whole.unwritten⟩
  | opens loan free =>
    have other : opened.id ≠ ⟨source.nextRun⟩ := by
      intro same
      rw [same, free] at found
      cases found
    have kept : (source.withOpened surroundings loan).runs.find? opened.id =
        source.runs.find? opened.id := by
      rw [withOpened, Register.find?_put, if_neg other]
    refine ⟨⟨record, kept.trans found, isWhole⟩, ?_⟩
    intro flight member same unwritten
    rcases List.mem_append.mp member with member | new
    · exact kept.trans (whole.unwritten flight member same unwritten)
    · rw [List.mem_singleton.mp new] at same
      exact absurd same.symm other
  | @moves before rest flight after written split moves =>
    have member : flight ∈ source.flights := split ▸ mem_course_iff.mpr (.inl rfl)
    have owns := owned.owns flight member
    refine ⟨?_, ?_⟩
    · rcases moves.store_cases owns owned.filed with
        rfl | ⟨held, verdict, now, present, isOpen, -, rfl⟩
      · exact whole.record
      · by_cases same : opened.id = flight.run
        · -- What was finished was open, so it was the record as it was opened.
          rw [← same, found, Option.some.injEq] at present
          subst present
          refine ⟨record.concluded verdict now, ?_, ?_⟩
          · rw [Register.find?_put, if_pos same]
          · rcases isWhole with rfl | ⟨earlier, ended, rfl⟩ <;> exact .inr ⟨verdict, now, rfl⟩
        · exact ⟨record, by rw [Register.find?_put, if_neg same, found], isWhole⟩
    · intro other present same unwritten
      rcases mem_course_iff.mp present with rfl | kept
      · obtain ⟨before, rfl⟩ := moves.of_isUnwritten unwritten
        rw [moves.run] at same
        exact whole.unwritten flight member same before
      · have different : opened.id ≠ flight.run := same ▸ owned.run_ne_of_split split kept
        have held : other ∈ source.flights := split ▸ mem_course_iff.mpr (.inr kept)
        exact ((moves.frame owns owned.filed).2 _ different).trans
          (whole.unwritten other held same unwritten)
  | @forgets before rest flight split isOver =>
    exact ⟨whole.record, fun other present =>
      whole.unwritten other (split ▸ mem_course_iff.mpr (.inr present))⟩

theorem KeepsWhole.path (path : Path surroundings source target) (owned : source.Owned)
    (whole : source.KeepsWhole opened) : target.KeepsWhole opened := by
  induction path with
  | nil => exact whole
  | cons step _ ih => exact ih (owned.step step) (whole.step step owned)

/-- A run that is opened and begins its course has its record whole. -/
theorem keepsWhole_withOpened (service : Service) (surroundings : Surroundings) (loan : LoanId) :
    (service.withOpened surroundings loan).KeepsWhole (service.nextOpened surroundings loan) :=
  ⟨⟨_, service.find?_withOpened loan, .inl rfl⟩, fun _ _ _ _ => service.find?_withOpened loan⟩

end Service

/-- Whatever happens to a service, the record of an opened run stays whole. -/
theorem World.keepsWhole_replay {world : World} {opened : MatchRun} (owned : world.service.Owned)
    (whole : world.service.KeepsWhole opened) (events : List Event) :
    (world.replay events).service.KeepsWhole opened := by
  induction events generalizing world with
  | nil => exact whole
  | cons event rest ih =>
    refine ih (owned_step owned event).1 ?_
    cases event with
    | move move now => exact whole.path (world.service.path_move move) owned
    | _ => exact whole

namespace Service

variable {service : Service} {surroundings : Surroundings} {loan : LoanId} {cause : RecordError}

/-- Lets the started run at a place take its three steps, each in surroundings of its own. -/
def advanceThrough (service : Service) (place : Nat) (first second third : Surroundings) :
    Service :=
  ((service.advance first place).advance second place).advance third place

/-- With what the started run at a place has ended, if it has. -/
def outcome? (service : Service) (place : Nat) : Option (Except ServiceError MatchRun) :=
  (service.flights[place]?).bind Flight.outcome?

theorem advance_last {before : List Flight} {flight : Flight}
    (last : service.flights = before ++ [flight]) :
    service.advance surroundings before.length =
      { service with
        runs := (flight.step surroundings service.runs).2
        flights := before ++ [(flight.step surroundings service.runs).1] } := by
  have present : service.flights[before.length]? = some flight := by
    rw [last, List.getElem?_concat_length]
  simp only [advance, present]
  rw [last, List.set_append_right _ _ (Nat.le_refl _), Nat.sub_self, List.set_cons_zero]

/-- The run that was started last takes its course on the store of the service. -/
theorem advanceThrough_last {before : List Flight} {flight : Flight}
    (last : service.flights = before ++ [flight]) (first second third : Surroundings) :
    service.advanceThrough before.length first second third =
      { service with
        runs := (flight.course first second third service.runs).2
        flights := before ++ [(flight.course first second third service.runs).1] } := by
  let judged := flight.step first service.runs
  let finished := judged.1.step second judged.2
  rw [advanceThrough, advance_last last, @advance_last _ second before judged.1 rfl,
    @advance_last _ third before finished.1 rfl]
  rfl

/-- A run that the store refuses is not started. -/
theorem startRun_of_refused
    (refused : service.runs.insert surroundings.outage (service.nextOpened surroundings loan) =
      .error cause) :
    service.startRun surroundings loan =
      (.error (.record cause), { service with nextRun := service.nextRun + 1 }) := by
  simp only [startRun, openRun_of_refused refused]

/-- A run that is filed is started. -/
theorem startRun_of_filed {runs : RunStore}
    (filed : service.runs.insert surroundings.outage (service.nextOpened surroundings loan) =
      .ok runs) :
    service.startRun surroundings loan =
      (.ok (service.nextOpened surroundings loan), service.withOpened surroundings loan) :=
  startRun_of_opened (congrArg Prod.fst (openRun_of_filed filed))

/-- The service once the run that it started last has ended. -/
def withEnded (service : Service) (loan : LoanId) (outcome : Except ServiceError MatchRun)
    (runs : RunStore) : Service where
  nextRun := service.nextRun + 1
  runs := runs
  flights := service.flights ++ [⟨⟨service.nextRun⟩, loan, .ended outcome⟩]

theorem outcome?_withEnded {outcome : Except ServiceError MatchRun} {runs : RunStore} :
    (service.withEnded loan outcome runs).outcome? service.flights.length = some outcome := by
  rw [outcome?, withEnded, List.getElem?_concat_length]
  rfl

/-- A started run ends in the background with what breaks it off, or else with its verdict. -/
theorem advanceThrough_withOpened (first second third : Surroundings) :
    let opened := service.nextOpened surroundings loan
    let runs := service.runs.put ⟨service.nextRun⟩ opened
    (service.withOpened surroundings loan).advanceThrough service.flights.length first second
        third =
      match second.outage.breaksOff? third.outage with
      | some cause => service.withEnded loan (.error (.record cause)) runs
      | none =>
        let done := opened.concluded (first.judge loan) second.now
        service.withEnded loan (.ok done) (runs.put ⟨service.nextRun⟩ done) := by
  intro opened runs
  have taken := @course_of_nextOpened service surroundings loan first second third
  have last : (service.withOpened surroundings loan).flights =
      service.flights ++ [⟨⟨service.nextRun⟩, loan, .opened⟩] := rfl
  have ended := congrArg (fun stepped : Flight × RunStore =>
    (⟨service.nextRun + 1, stepped.2, service.flights ++ [stepped.1]⟩ : Service)) taken
  refine (advanceThrough_last last first second third).trans (ended.trans ?_)
  cases second.outage.breaksOff? third.outage <;> rfl

/-- A run that was started as one that is evaluated at once was opened. If it fails it leaves the
store that the other one leaves, whether the same failures meet it or others; with more runs beside
it, what the store has under its number is never partial, and if the run fails it is the record as
it was opened. -/
structure FailsLike (started after : Service) (place : Nat) (outage : StoreOutage)
    (error : ServiceError) (opened : MatchRun) : Prop where
  error : ∀ first second third : Surroundings, second.outage = outage → third.outage = outage →
    (started.advanceThrough place first second third).outcome? place = some (.error error)
  runs : ∀ first second third failure,
    (started.advanceThrough place first second third).outcome? place = some (.error failure) →
    (started.advanceThrough place first second third).runs = after.runs
  among : ∀ world : World, world.IsReachable → world.service = started → ∀ events,
    let reached := (world.replay events).service
    (∃ record, reached.runs.find? opened.id = some record ∧ opened.IsWhole record) ∧
      ∀ flight ∈ reached.flights, flight.run = opened.id →
        ∀ failure, flight.outcome? = some (.error failure) →
          reached.runs.find? opened.id = some opened

/-- A run that is filed and that the failures of the store break off fails in the background like
at once. -/
theorem failsLike_of_brokenOff
    (broken : surroundings.outage.breaksOff? surroundings.outage = some cause) {after : Service}
    (kept : after.runs =
      service.runs.put ⟨service.nextRun⟩ (service.nextOpened surroundings loan)) :
    (service.withOpened surroundings loan).FailsLike after service.flights.length
      surroundings.outage (.record cause) (service.nextOpened surroundings loan) := by
  refine ⟨?_, ?_, ?_⟩
  · intro first second third fetching writing
    simp only [advanceThrough_withOpened, fetching, writing, broken]
    exact outcome?_withEnded
  · intro first second third failure failed
    rw [advanceThrough_withOpened] at failed ⊢
    rw [kept]
    cases stops : second.outage.breaksOff? third.outage with
    | some cause => rfl
    | none =>
      rw [stops] at failed
      cases outcome?_withEnded.symm.trans failed
  · intro world reachable same events reached
    have whole := World.keepsWhole_replay reachable.owned
      (same ▸ service.keepsWhole_withOpened surroundings loan) events
    refine ⟨whole.record, ?_⟩
    intro flight member own failure failed
    exact whole.unwritten flight member own (Flight.isUnwritten_of_failed failed)

/-- A run that is refused ends with the cause, and leaves the store as it was. -/
theorem runMatch_of_refused
    (refused : service.runs.insert surroundings.outage (service.nextOpened surroundings loan) =
      .error cause) :
    service.runMatch surroundings loan =
      (.error (.record cause), { service with nextRun := service.nextRun + 1 }) := by
  simp only [runMatch, openRun_of_refused refused]

/-- A run that is filed and broken off ends with the cause, and leaves its record as it was
opened. -/
theorem runMatch_of_brokenOff {runs : RunStore}
    (filed : service.runs.insert surroundings.outage (service.nextOpened surroundings loan) =
      .ok runs)
    (broken : surroundings.outage.breaksOff? surroundings.outage = some cause) :
    service.runMatch surroundings loan =
      (.error (.record cause), ⟨service.nextRun + 1, runs, service.flights⟩) := by
  obtain ⟨-, -, rfl⟩ := RunStore.insert_eq_ok_iff.mp filed
  have taken := @course_of_nextOpened service surroundings loan surroundings surroundings
    surroundings
  rw [broken] at taken
  exact runMatch_of_filed filed (Flight.land_eq_course taken rfl)

/-- A run fails exactly if the store refuses it or breaks it off. -/
theorem runMatch_fails_iff (service : Service) (surroundings : Surroundings) (loan : LoanId) :
    (∃ error, (service.runMatch surroundings loan).1 = .error error) ↔
      (∃ cause, service.runs.insert surroundings.outage (service.nextOpened surroundings loan) =
          .error cause) ∨
        ∃ cause, surroundings.outage.breaksOff? surroundings.outage = some cause := by
  cases inserted : service.runs.insert surroundings.outage
      (service.nextOpened surroundings loan) with
  | error cause =>
    rw [runMatch_of_refused inserted]
    exact ⟨fun _ => .inl ⟨cause, rfl⟩, fun _ => ⟨.record cause, rfl⟩⟩
  | ok runs =>
    cases broken : surroundings.outage.breaksOff? surroundings.outage with
    | some cause =>
      rw [runMatch_of_brokenOff inserted broken]
      exact ⟨fun _ => .inr ⟨cause, rfl⟩, fun _ => ⟨.record cause, rfl⟩⟩
    | none =>
      rw [runMatch_of_unbroken inserted broken]
      simp

/-- A run that ends with an error leaves no partial effect. The store refuses it or breaks it off.
If it is refused the store is as it was; if it is broken off, the store has gained the record as it
was opened. A started run that fails in the background leaves the same store. -/
theorem runMatch_leaves_no_partial_effect (service : Service) (surroundings : Surroundings)
    (loan : LoanId) :
    let answer := (service.runMatch surroundings loan).1
    let after := (service.runMatch surroundings loan).2
    let opened := MatchRun.opened ⟨service.nextRun⟩ loan surroundings.now
    let outage := surroundings.outage
    ((∃ error, answer = .error error) ↔
        (∃ cause, service.runs.insert outage opened = .error cause) ∨
          ∃ cause, outage.breaksOff? outage = some cause) ∧
      ∀ error, answer = .error error → ∃ cause, error = .record cause ∧
        ((service.runs.insert outage opened = .error cause ∧ after.runs = service.runs ∧
            service.startRun surroundings loan = (.error error, after)) ∨
          (outage.breaksOff? outage = some cause ∧ RunStore.Gains service.runs after.runs opened ∧
            ∃ started, service.startRun surroundings loan = (.ok opened, started) ∧
              started.FailsLike after service.flights.length outage error opened)) := by
  intro answer after opened outage
  refine ⟨service.runMatch_fails_iff surroundings loan, ?_⟩
  intro error failed
  cases inserted : service.runs.insert outage opened with
  | error cause =>
    have refused := runMatch_of_refused inserted
    have kept : after = { service with nextRun := service.nextRun + 1 } :=
      congrArg Prod.snd refused
    obtain rfl : ServiceError.record cause = error :=
      Except.error.inj ((congrArg Prod.fst refused).symm.trans failed)
    exact ⟨cause, rfl, .inl ⟨rfl, by rw [kept], by rw [startRun_of_refused inserted, kept]⟩⟩
  | ok runs =>
    cases broken : outage.breaksOff? outage with
    | none => cases (runMatch_of_unbroken inserted broken).symm.trans failed
    | some cause =>
      have ended := runMatch_of_brokenOff inserted broken
      obtain rfl : ServiceError.record cause = error :=
        Except.error.inj ((congrArg Prod.fst ended).symm.trans failed)
      obtain ⟨-, free, rfl⟩ := RunStore.insert_eq_ok_iff.mp inserted
      have kept : after.runs = service.runs.put ⟨service.nextRun⟩ opened :=
        congrArg (fun result => result.2.runs) ended
      refine ⟨cause, rfl, .inr ⟨rfl, ?_, _, startRun_of_filed inserted, ?_⟩⟩
      · rw [kept]
        exact RunStore.gains_put free
      · exact failsLike_of_brokenOff broken kept

/-- The sample application meets a store that files runs and finds them, and takes no finished
one. -/
def unwritable : Surroundings where
  directory := (Seed.catalog.fileApplication Seed.sampleLoan
    (Seed.application 50000 36 690)).directory
  outage := ⟨none, some (.unavailable "disk full"), none, false⟩
  evaluator := .engine
  budget := .ofMilliseconds 2000
  now := .epoch

/-- A service that has opened a run before. -/
def inUse : Service := (new.openRun { unwritable with outage := .none } Seed.sampleLoan).2

theorem runMatch_leaves_no_partial_effect_unwritable :
    (inUse.runMatch unwritable Seed.sampleLoan).1 =
        .error (.record (.unavailable "disk full")) ∧
      RunStore.Gains inUse.runs (inUse.runMatch unwritable Seed.sampleLoan).2.runs
        (.opened ⟨2⟩ Seed.sampleLoan .epoch) := by
  obtain ⟨fails, whenFailed⟩ :=
    runMatch_leaves_no_partial_effect inUse unwritable Seed.sampleLoan
  obtain ⟨error, failed⟩ := fails.mpr (.inr ⟨_, rfl⟩)
  obtain ⟨cause, rfl, ⟨refused, -⟩ | ⟨broken, gains, -⟩⟩ := whenFailed error failed
  · cases refused
  · cases broken
    exact ⟨failed, gains⟩

end Service

end Underwriting
