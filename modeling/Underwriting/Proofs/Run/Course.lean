import Underwriting.Proofs.Run.Conclusion
import Underwriting.Service.Basic

/-! # Steps on the store

What the operations of the store, one step of a run, its whole course and the opening of a run can
do. Everything a history does to the store is one of two things: a run is filed under a number that
was free, or a finished run takes the place of the record it was made from. Which failures of the
store break a run off, and that such a run leaves the store as it was, is said once for a run whose
steps have failures of their own.
-/

namespace Underwriting

namespace StoreOutage

/-- What the look-up of a stored run fails with. -/
def loses? (outage : StoreOutage) : Option RecordError :=
  outage.fetch?.or (if outage.fetchMissing then some .notFound else .none)

/-- What breaks off a run whose record is stored: the look-up of the record, or else the writing of
the finished one. -/
def breaksOff? (fetching writing : StoreOutage) : Option RecordError :=
  fetching.loses?.or writing.update?

theorem loses?_eq_none_iff {outage : StoreOutage} :
    outage.loses? = .none ↔ outage.fetch? = .none ∧ outage.fetchMissing = false := by
  cases missing : outage.fetchMissing <;> simp [loses?, missing]

end StoreOutage

namespace RunStore

variable {store after : RunStore} {outage : StoreOutage} {run : MatchRun}

theorem insert_eq_ok_iff :
    store.insert outage run = .ok after ↔
      outage.insert? = none ∧ store.find? run.id = none ∧ after = store.put run.id run := by
  unfold insert
  cases outage.insert? with
  | some error => simp
  | none =>
    cases store.find? run.id with
    | some _ => simp
    | none => simp [eq_comm]

theorem update_eq_ok_iff :
    store.update outage run = .ok after ↔
      outage.update? = none ∧ (store.find? run.id).isSome = true ∧
        after = store.put run.id run := by
  unfold update
  cases outage.update? with
  | some error => simp
  | none =>
    cases store.find? run.id with
    | some _ => simp [eq_comm]
    | none => simp

theorem fetch_eq_some_iff {id : RunId} :
    store.fetch outage id = .ok (some run) ↔
      outage.fetch? = none ∧ outage.fetchMissing = false ∧ store.find? id = some run := by
  unfold fetch
  cases outage.fetch? with
  | some error => simp
  | none => cases outage.fetchMissing <;> simp

end RunStore

namespace Flight

/-- What one step of a run can do: it is judged, its record is finished, the finished record is
written, its course ends without a change to the store, or it has ended already. -/
inductive Moves (surroundings : Surroundings) (flight : Flight) (store : RunStore) :
    Flight → RunStore → Prop
  | judges : flight.stage = .opened →
      Moves surroundings flight store
        { flight with stage := .judged (surroundings.judge flight.loan) } store
  | finishes {verdict : Verdict} {record done : MatchRun} : flight.stage = .judged verdict →
      store.find? flight.run = some record →
      record.conclude verdict surroundings.now = .ok done →
      Moves surroundings flight store { flight with stage := .finished done } store
  | writes {done : MatchRun} : flight.stage = .finished done →
      (store.find? done.id).isSome = true →
      Moves surroundings flight store { flight with stage := .ended (.ok done) }
        (store.put done.id done)
  | givesUp {error : ServiceError} : flight.stage ≠ .opened →
      (∀ outcome, flight.stage ≠ .ended outcome) →
      Moves surroundings flight store { flight with stage := .ended (.error error) } store
  | rests {outcome : Except ServiceError MatchRun} : flight.stage = .ended outcome →
      Moves surroundings flight store flight store

/-- A step does one of these. -/
theorem moves_step (surroundings : Surroundings) (flight : Flight) (store : RunStore) :
    flight.Moves surroundings store (flight.step surroundings store).1
      (flight.step surroundings store).2 := by
  obtain ⟨run, loan, stage⟩ := flight
  cases stage with
  | opened => exact .judges rfl
  | judged verdict =>
    simp only [step]
    split
    · exact .givesUp Stage.noConfusion fun _ => Stage.noConfusion
    · exact .givesUp Stage.noConfusion fun _ => Stage.noConfusion
    · rename_i record fetched
      have found := (RunStore.fetch_eq_some_iff.mp fetched).2.2
      split
      · exact .givesUp Stage.noConfusion fun _ => Stage.noConfusion
      · rename_i done concluded
        exact .finishes rfl found concluded
  | finished done =>
    simp only [step]
    split
    · exact .givesUp Stage.noConfusion fun _ => Stage.noConfusion
    · rename_i after updated
      obtain ⟨-, present, rfl⟩ := RunStore.update_eq_ok_iff.mp updated
      exact .writes rfl present
  | ended outcome => exact .rests rfl

variable {surroundings : Surroundings} {flight after : Flight} {store written : RunStore}

theorem Moves.run (moves : flight.Moves surroundings store after written) :
    after.run = flight.run := by
  cases moves <;> rfl

section Landing

variable {first second third : Surroundings} {record : MatchRun}

/-- The three steps of a run on a store that nobody else uses, each in surroundings of its own. -/
def course (first second third : Surroundings) (flight : Flight) (store : RunStore) :
    Flight × RunStore :=
  let judged := flight.step first store
  let finished := judged.1.step second judged.2
  finished.1.step third finished.2

/-- With what a run has ended, if it has. -/
def outcome? (flight : Flight) : Option (Except ServiceError MatchRun) :=
  match flight.stage with
  | .ended outcome => some outcome
  | .opened | .judged _ | .finished _ => none

/-- The look-up of its record ends a run if the store loses the record, and else finishes it. -/
theorem step_judged (verdict : Verdict) (isOpen : record.IsOpen)
    (found : store.find? record.id = some record) :
    step second ⟨record.id, record.loan, .judged verdict⟩ store =
      (⟨record.id, record.loan,
        match second.outage.loses? with
        | some cause => .ended (.error (.record cause))
        | none => .finished (record.concluded verdict second.now)⟩, store) := by
  cases lost : second.outage.loses? with
  | none =>
    obtain ⟨fetches, finds⟩ := StoreOutage.loses?_eq_none_iff.mp lost
    have fetched : store.fetch second.outage record.id = .ok (some record) :=
      RunStore.fetch_eq_some_iff.mpr ⟨fetches, finds, found⟩
    simp only [step, fetched, MatchRun.conclude_of_isOpen isOpen]
  | some cause =>
    unfold StoreOutage.loses? at lost
    cases fetches : second.outage.fetch? with
    | some failure =>
      rw [fetches, Option.some_or, Option.some.injEq] at lost
      subst lost
      simp only [step, RunStore.fetch, fetches]
    | none =>
      rw [fetches, Option.none_or, Option.ite_none_right_eq_some, Option.some.injEq] at lost
      obtain ⟨missing, rfl⟩ := lost
      simp only [step, RunStore.fetch, fetches, missing, ↓reduceIte]

/-- A finished record is written unless the store fails. -/
theorem step_finished (done : MatchRun) (run : RunId) (loan : LoanId)
    (present : (store.find? done.id).isSome = true) :
    step third ⟨run, loan, .finished done⟩ store =
      match third.outage.update? with
      | some cause => (⟨run, loan, .ended (.error (.record cause))⟩, store)
      | none => (⟨run, loan, .ended (.ok done)⟩, store.put done.id done) := by
  cases fails : third.outage.update? with
  | none =>
    have updated : store.update third.outage done = .ok (store.put done.id done) :=
      RunStore.update_eq_ok_iff.mpr ⟨fails, present, rfl⟩
    simp only [step, updated]
  | some cause => simp only [step, RunStore.update, fails]

/-- A run whose record is stored ends with what breaks it off, and leaves the store as it was; or
nothing does, and its finished record takes the place of the open one. -/
theorem course_of_isOpen (isOpen : record.IsOpen) (found : store.find? record.id = some record) :
    course first second third ⟨record.id, record.loan, .opened⟩ store =
      match second.outage.breaksOff? third.outage with
      | some cause => (⟨record.id, record.loan, .ended (.error (.record cause))⟩, store)
      | none =>
        let done := record.concluded (first.judge record.loan) second.now
        (⟨record.id, record.loan, .ended (.ok done)⟩, store.put record.id done) := by
  have judged : step first ⟨record.id, record.loan, .opened⟩ store =
      (⟨record.id, record.loan, .judged (first.judge record.loan)⟩, store) := rfl
  have present : (store.find? record.id).isSome = true := by rw [found, Option.isSome_some]
  simp only [course, judged, step_judged _ isOpen found, StoreOutage.breaksOff?]
  cases second.outage.loses? with
  | some cause => simp only [step, Option.some_or]
  | none =>
    simp only [Option.none_or]
    exact step_finished (record.concluded _ _) record.id record.loan present

/-- All steps of a run at once are its course in one surroundings. -/
theorem land_eq_course {surroundings : Surroundings} {flight ended : Flight}
    {outcome : Except ServiceError MatchRun} {written : RunStore}
    (taken : flight.course surroundings surroundings surroundings store = (ended, written))
    (atEnd : ended.outcome? = some outcome) :
    flight.land surroundings store = (outcome, written) := by
  have last : ended.stage = .ended outcome := by
    unfold outcome? at atEnd
    split at atEnd
    · rename_i stage
      rw [stage, Option.some.inj atEnd]
    all_goals cases atEnd
  unfold course at taken
  simp only [land, taken, last]

/-- With a store that does not fail an open run ends with its verdict, and the store holds it. -/
theorem land_of_healthy {run : MatchRun} (healthy : surroundings.outage = .none)
    (isOpen : run.IsOpen) (found : store.find? run.id = some run) :
    land surroundings ⟨run.id, run.loan, .opened⟩ store =
      (.ok (run.concluded (surroundings.judge run.loan) surroundings.now),
        store.put run.id (run.concluded (surroundings.judge run.loan) surroundings.now)) := by
  have taken : course surroundings surroundings surroundings ⟨run.id, run.loan, .opened⟩ store =
    _ := course_of_isOpen isOpen found
  rw [healthy] at taken
  exact land_eq_course taken rfl

end Landing

end Flight

namespace Service

/-- The run that is opened next. -/
def nextOpened (service : Service) (surroundings : Surroundings) (loan : LoanId) : MatchRun :=
  .opened ⟨service.nextRun⟩ loan surroundings.now

variable {service : Service} {surroundings : Surroundings} {loan : LoanId}

theorem openRun_of_refused {cause : RecordError}
    (refused : service.runs.insert surroundings.outage (service.nextOpened surroundings loan) =
      .error cause) :
    service.openRun surroundings loan =
      (.error (.record cause), { service with nextRun := service.nextRun + 1 }) := by
  unfold nextOpened at refused
  simp only [openRun, refused]

theorem openRun_of_filed {runs : RunStore}
    (filed : service.runs.insert surroundings.outage (service.nextOpened surroundings loan) =
      .ok runs) :
    service.openRun surroundings loan =
      (.ok (service.nextOpened surroundings loan),
        ⟨service.nextRun + 1, runs, service.flights⟩) := by
  unfold nextOpened at filed ⊢
  simp only [openRun, filed]

/-- Opening a run uses up its number, and files the run unless the store refuses it. -/
theorem openRun_cases (service : Service) (surroundings : Surroundings) (loan : LoanId) :
    (∃ cause, service.openRun surroundings loan =
        (.error (.record cause), { service with nextRun := service.nextRun + 1 })) ∨
      service.runs.find? ⟨service.nextRun⟩ = none ∧
        service.openRun surroundings loan =
          (.ok (service.nextOpened surroundings loan),
            { service with
              nextRun := service.nextRun + 1
              runs := service.runs.put ⟨service.nextRun⟩
                (service.nextOpened surroundings loan) }) := by
  cases inserted :
    service.runs.insert surroundings.outage (service.nextOpened surroundings loan) with
  | error cause => exact .inl ⟨cause, openRun_of_refused inserted⟩
  | ok runs =>
    obtain ⟨-, free, rfl⟩ := RunStore.insert_eq_ok_iff.mp inserted
    exact .inr ⟨free, openRun_of_filed inserted⟩

/-- A run that is filed ends as its course on the store that has it. -/
theorem runMatch_of_filed {runs written : RunStore} {outcome : Except ServiceError MatchRun}
    (filed : service.runs.insert surroundings.outage (service.nextOpened surroundings loan) =
      .ok runs)
    (landed : Flight.land surroundings ⟨⟨service.nextRun⟩, loan, .opened⟩ runs =
      (outcome, written)) :
    service.runMatch surroundings loan =
      (outcome, ⟨service.nextRun + 1, written, service.flights⟩) := by
  simp only [runMatch, openRun_of_filed filed]
  exact congrArg (fun ended : Except ServiceError MatchRun × RunStore =>
    (ended.1, (⟨service.nextRun + 1, ended.2, service.flights⟩ : Service))) landed

/-- The course of the run that is opened next, from the store that has it. -/
theorem course_of_nextOpened (first second third : Surroundings) :
    let opened := service.nextOpened surroundings loan
    let runs := service.runs.put ⟨service.nextRun⟩ opened
    Flight.course first second third ⟨⟨service.nextRun⟩, loan, .opened⟩ runs =
      match second.outage.breaksOff? third.outage with
      | some cause => (⟨⟨service.nextRun⟩, loan, .ended (.error (.record cause))⟩, runs)
      | none =>
        let done := opened.concluded (first.judge loan) second.now
        (⟨⟨service.nextRun⟩, loan, .ended (.ok done)⟩, runs.put ⟨service.nextRun⟩ done) := by
  intro opened runs
  have found : runs.find? opened.id = some opened :=
    (Register.find?_put service.runs opened.id opened.id opened).trans (if_pos rfl)
  exact Flight.course_of_isOpen (MatchRun.isOpen_opened ⟨service.nextRun⟩ loan _) found

/-- A run that is filed and not broken off does not fail. -/
theorem runMatch_of_unbroken {runs : RunStore}
    (filed : service.runs.insert surroundings.outage (service.nextOpened surroundings loan) =
      .ok runs)
    (unbroken : surroundings.outage.breaksOff? surroundings.outage = none) :
    (service.runMatch surroundings loan).1 = .ok ((service.nextOpened surroundings loan).concluded
      (surroundings.judge loan) surroundings.now) := by
  obtain ⟨-, -, rfl⟩ := RunStore.insert_eq_ok_iff.mp filed
  have taken := @course_of_nextOpened service surroundings loan surroundings surroundings
    surroundings
  rw [unbroken] at taken
  exact congrArg Prod.fst (runMatch_of_filed filed (Flight.land_eq_course taken rfl))

/-- The number of the next run is free, so that the store does not refuse the run. -/
def HasFreeNumber (service : Service) : Prop := service.runs.find? ⟨service.nextRun⟩ = none

/-- With a store that does not fail a run ends with its verdict, and the store holds it. -/
theorem runMatch_of_healthy {service : Service} {surroundings : Surroundings} (loan : LoanId)
    (healthy : surroundings.outage = .none) (free : service.HasFreeNumber) :
    (service.runMatch surroundings loan).1 = .ok ((service.nextOpened surroundings loan).concluded
      (surroundings.judge loan) surroundings.now) := by
  have inserted : service.runs.insert surroundings.outage (service.nextOpened surroundings loan) =
      .ok (service.runs.put ⟨service.nextRun⟩ (service.nextOpened surroundings loan)) :=
    RunStore.insert_eq_ok_iff.mpr ⟨by rw [healthy]; rfl, free, rfl⟩
  exact runMatch_of_unbroken inserted (by rw [healthy]; rfl)

end Service

end Underwriting
