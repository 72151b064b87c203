import Underwriting.Proofs.Service.Path

/-! # Runs own their records

No two runs on their course share a number, and the record of a run that has not ended is as it was
opened. So when a run writes its finished record, it replaces an open one, and it is the only run
that does. Every atomic step preserves this, and changes a record only by finishing it.
-/

namespace Underwriting

namespace MatchRun

/-- What may become of a record: its number, its loan and its start stay, its status goes from
running to an end once, and at the end nothing changes any more. -/
structure Evolves (earlier later : MatchRun) : Prop where
  id : later.id = earlier.id
  loan : later.loan = earlier.loan
  createdAt : later.createdAt = earlier.createdAt
  status : later.status = earlier.status ∨
    earlier.status = .running ∧ (later.status = .complete ∨ later.status = .failed)
  frozen : earlier.status.isTerminal = true → later = earlier

theorem Evolves.refl (run : MatchRun) : run.Evolves run :=
  ⟨rfl, rfl, rfl, .inl rfl, fun _ => rfl⟩

theorem Evolves.trans {first second third : MatchRun} (left : first.Evolves second)
    (right : second.Evolves third) : first.Evolves third where
  id := right.id.trans left.id
  loan := right.loan.trans left.loan
  createdAt := right.createdAt.trans left.createdAt
  status := by
    rcases left.status with same | ⟨running, ended⟩
    · rcases right.status with also | ⟨running, ended⟩
      · exact .inl (also.trans same)
      · exact .inr ⟨same ▸ running, ended⟩
    · have frozen : third = second := by
        apply right.frozen
        rcases ended with complete | failed
        · rw [complete]
          rfl
        · rw [failed]
          rfl
      exact .inr ⟨running, frozen ▸ ended⟩
  frozen := by
    intro terminal
    have same := left.frozen terminal
    rw [right.frozen (same ▸ terminal), same]

/-- An open record may become any conclusion of it. -/
theorem IsOpen.evolves {run : MatchRun} (isOpen : run.IsOpen) (verdict : Verdict)
    (now : Timestamp) : run.Evolves (run.concluded verdict now) where
  id := rfl
  loan := rfl
  createdAt := rfl
  status := by
    refine .inr ⟨isOpen.status, ?_⟩
    cases verdict with
    | ok results => exact .inl rfl
    | error cause => exact .inr rfl
  frozen := by
    intro terminal
    rw [isOpen.status] at terminal
    cases terminal

end MatchRun

/-- How far a run is fits its record: until the run has ended the record is open, and what the run
is about to write is a conclusion of it. -/
def Stage.Fits (record : MatchRun) : Stage → Prop
  | .opened | .judged _ => record.IsOpen
  | .finished done => record.IsOpen ∧ ∃ verdict now, done = record.concluded verdict now
  | .ended _ => True

/-- Every record stands under its own number. -/
def RunStore.IsFiled (store : RunStore) : Prop :=
  ∀ id run, store.find? id = some run → run.id = id

/-- The store holds a record for the run that fits how far the run is. -/
def Flight.Owns (flight : Flight) (store : RunStore) : Prop :=
  ∃ record, store.find? flight.run = some record ∧ flight.stage.Fits record

/-- Records stand under their own numbers, and each run on its course owns its record alone. -/
structure Service.Owned (service : Service) : Prop where
  filed : service.runs.IsFiled
  distinct : (service.flights.map (·.run)).Nodup
  owns : ∀ flight ∈ service.flights, flight.Owns service.runs

/-- Every record of one store is still in another, changed at most by being finished. -/
def RunStore.Evolves (earlier later : RunStore) : Prop :=
  ∀ id run, earlier.find? id = some run → ∃ next, later.find? id = some next ∧ run.Evolves next

namespace RunStore

variable {store first second third : RunStore}

theorem IsFiled.put (filed : store.IsFiled) {id : RunId} {run : MatchRun} (own : run.id = id) :
    IsFiled (store.put id run) := by
  intro other record found
  rw [Register.find?_put] at found
  split at found
  · rename_i same
    rw [← Option.some.inj found, own, same]
  · exact filed other record found

theorem Evolves.refl (store : RunStore) : store.Evolves store :=
  fun _ run found => ⟨run, found, .refl run⟩

theorem Evolves.trans (left : first.Evolves second) (right : second.Evolves third) :
    first.Evolves third := by
  intro id run found
  obtain ⟨middle, found, before⟩ := left id run found
  obtain ⟨next, found, after⟩ := right id middle found
  exact ⟨next, found, before.trans after⟩

/-- Filing a record under a free number touches no other. -/
theorem evolves_put_of_free {id : RunId} (free : store.find? id = none) (run : MatchRun) :
    store.Evolves (store.put id run) := by
  intro other record found
  have different : other ≠ id := by
    rintro rfl
    rw [free] at found
    cases found
  exact ⟨record, by rw [Register.find?_put, if_neg different, found], .refl record⟩

/-- Filing a conclusion of an open record finishes that record and touches no other. -/
theorem evolves_put_concluded {id : RunId} {record : MatchRun}
    (found : store.find? id = some record) (isOpen : record.IsOpen) (verdict : Verdict)
    (now : Timestamp) : store.Evolves (store.put id (record.concluded verdict now)) := by
  intro other run present
  by_cases same : other = id
  · subst same
    rw [found, Option.some.injEq] at present
    subst present
    exact ⟨_, by rw [Register.find?_put, if_pos rfl], isOpen.evolves verdict now⟩
  · exact ⟨run, by rw [Register.find?_put, if_neg same, present], .refl run⟩

end RunStore

namespace Flight

variable {surroundings : Surroundings} {flight after : Flight} {store written : RunStore}

/-- A run keeps its record as long as the store does. -/
theorem Owns.of_find?_eq (owns : flight.Owns store)
    (same : written.find? flight.run = store.find? flight.run) : flight.Owns written := by
  obtain ⟨record, found, fits⟩ := owns
  exact ⟨record, same.trans found, fits⟩

/-- What a run makes of its record is a conclusion of it, by the verdict that it got. -/
theorem Owns.of_conclude {verdict : Verdict} {now : Timestamp} {record done : MatchRun}
    (owns : flight.Owns store) (stage : flight.stage = .judged verdict)
    (found : store.find? flight.run = some record)
    (concluded : record.conclude verdict now = .ok done) :
    record.IsOpen ∧ done = record.concluded verdict now := by
  obtain ⟨held, present, fits⟩ := owns
  rw [stage] at fits
  rw [found, Option.some.injEq] at present
  subst present
  rw [MatchRun.conclude_of_isOpen fits, Except.ok.injEq] at concluded
  exact ⟨fits, concluded.symm⟩

/-- What a run does to the store: nothing, or it finishes the record that it owns. -/
theorem Moves.store_cases (moves : flight.Moves surroundings store after written)
    (owns : flight.Owns store) (filed : store.IsFiled) :
    written = store ∨
      ∃ record verdict now, store.find? flight.run = some record ∧ record.IsOpen ∧
        flight.stage = .finished (record.concluded verdict now) ∧
        written = store.put flight.run (record.concluded verdict now) := by
  cases moves with
  | writes stage present =>
    obtain ⟨record, found, fits⟩ := owns
    rw [stage] at fits
    obtain ⟨isOpen, verdict, now, rfl⟩ := fits
    have own : record.id = flight.run := filed _ _ found
    refine .inr ⟨record, verdict, now, found, isOpen, stage, ?_⟩
    simp only [MatchRun.concluded, own]
  | _ => exact .inl rfl

/-- A step of a run leaves every record in its place, and the records of other runs as they were. -/
theorem Moves.frame (moves : flight.Moves surroundings store after written)
    (owns : flight.Owns store) (filed : store.IsFiled) :
    written.IsFiled ∧ ∀ id, id ≠ flight.run → written.find? id = store.find? id := by
  rcases moves.store_cases owns filed with
    rfl | ⟨record, verdict, now, found, isOpen, stage, rfl⟩
  · exact ⟨filed, fun _ _ => rfl⟩
  · have own : record.id = flight.run := filed _ _ found
    exact ⟨filed.put own, fun id other => by rw [Register.find?_put, if_neg other]⟩

/-- After its step a run owns its record still. -/
theorem Moves.owns (moves : flight.Moves surroundings store after written)
    (owns : flight.Owns store) (filed : store.IsFiled) :
    after.Owns written := by
  have held := owns
  obtain ⟨record, found, fits⟩ := owns
  cases moves with
  | judges stage =>
    rw [stage] at fits
    exact ⟨record, found, fits⟩
  | finishes stage fetched concluded =>
    obtain ⟨isOpen, rfl⟩ := held.of_conclude stage fetched concluded
    exact ⟨_, fetched, isOpen, _, _, rfl⟩
  | @writes done stage present =>
    rw [stage] at fits
    obtain ⟨isOpen, verdict, now, rfl⟩ := fits
    have own : record.id = flight.run := filed _ _ found
    refine ⟨record.concluded verdict now, ?_, trivial⟩
    simp only [MatchRun.concluded, own]
    rw [Register.find?_put, if_pos rfl]
  | givesUp _ => exact ⟨record, found, trivial⟩
  | rests stage => exact ⟨record, found, fits⟩

end Flight

namespace Service

variable {surroundings : Surroundings} {source target : Service}

theorem owned_new : new.Owned where
  filed _ _ found := by cases found
  distinct := List.nodup_nil
  owns _ member := by cases member

/-- A number that is free belongs to no run on its course. -/
theorem Owned.run_ne_of_free {id : RunId} (owned : source.Owned)
    (free : source.runs.find? id = none) {flight : Flight} (member : flight ∈ source.flights) :
    flight.run ≠ id := by
  rintro rfl
  obtain ⟨record, found, -⟩ := owned.owns flight member
  rw [free] at found
  cases found

/-- An opened run owns the record that was filed for it. -/
theorem Owned.withOpened (owned : source.Owned) (free : source.HasFreeNumber) (loan : LoanId) :
    (source.withOpened surroundings loan).Owned where
  filed := owned.filed.put rfl
  distinct := by
    simp only [Service.withOpened, List.map_append, List.map_cons, List.map_nil]
    refine List.nodup_append.mpr ⟨owned.distinct, List.pairwise_singleton _ _, ?_⟩
    intro id held other new
    rw [List.mem_singleton.mp new]
    obtain ⟨flight, member, rfl⟩ := List.mem_map.mp held
    exact owned.run_ne_of_free free member
  owns := by
    intro flight member
    rcases List.mem_append.mp member with member | new
    · refine (owned.owns flight member).of_find?_eq ?_
      rw [Service.withOpened, Register.find?_put, if_neg (owned.run_ne_of_free free member)]
    · rw [List.mem_singleton.mp new]
      exact ⟨source.nextOpened surroundings loan, source.find?_withOpened loan, rfl⟩

/-- No other run on its course has the number of the one that is singled out. -/
theorem Owned.run_ne_of_split (owned : source.Owned) {before rest : List Flight}
    {flight other : Flight} (split : source.flights = before ++ flight :: rest)
    (member : other ∈ before ++ rest) : other.run ≠ flight.run := by
  have distinct := owned.distinct
  rw [split, (List.perm_middle.map _).nodup_iff, List.map_cons] at distinct
  intro same
  exact (List.nodup_cons.mp distinct).1 (same ▸ List.mem_map_of_mem member)

/-- Every atomic step leaves the records in the hands of their runs. -/
theorem Owned.step (step : AtomicStep surroundings source target) (owned : source.Owned) :
    target.Owned := by
  cases step with
  | skips => exact ⟨owned.filed, owned.distinct, owned.owns⟩
  | opens loan free => exact owned.withOpened free loan
  | @moves before rest flight after written split moves =>
    have owns := owned.owns flight (split ▸ mem_course_iff.mpr (.inl rfl))
    obtain ⟨filed, others⟩ := moves.frame owns owned.filed
    refine ⟨filed, ?_, ?_⟩
    · have distinct := owned.distinct
      rw [split, List.map_append, List.map_cons] at distinct
      rw [List.map_append, List.map_cons, moves.run]
      exact distinct
    · intro other present
      rcases mem_course_iff.mp present with rfl | kept
      · exact moves.owns owns owned.filed
      · have member : other ∈ source.flights := split ▸ mem_course_iff.mpr (.inr kept)
        exact (owned.owns other member).of_find?_eq (others _ (owned.run_ne_of_split split kept))
  | @forgets before rest flight split isOver =>
    have kept : (before ++ rest).Sublist source.flights := by
      rw [split]
      exact (List.sublist_cons_self flight rest).append_left before
    exact ⟨owned.filed, (kept.map _).nodup owned.distinct,
      fun flight member => owned.owns flight (kept.subset member)⟩

/-- Every atomic step changes records only by finishing them, and loses none. -/
theorem Owned.evolves (step : AtomicStep surroundings source target) (owned : source.Owned) :
    source.runs.Evolves target.runs := by
  cases step with
  | skips => exact .refl _
  | opens loan free => exact RunStore.evolves_put_of_free free _
  | @moves before rest flight after written split moves =>
    have member : flight ∈ source.flights := split ▸ mem_course_iff.mpr (.inl rfl)
    rcases moves.store_cases (owned.owns flight member) owned.filed with
      rfl | ⟨record, verdict, now, found, isOpen, -, rfl⟩
    · exact .refl _
    · exact RunStore.evolves_put_concluded found isOpen verdict now
  | forgets => exact .refl _

/-- Paths lead from records in the hands of their runs to such records, finished or as they were. -/
theorem Owned.path (path : Path surroundings source target) (owned : source.Owned) :
    target.Owned ∧ source.runs.Evolves target.runs := by
  induction path with
  | nil => exact ⟨owned, .refl _⟩
  | cons step _ ih =>
    obtain ⟨after, evolves⟩ := ih (owned.step step)
    exact ⟨after, (owned.evolves step).trans evolves⟩

end Service

namespace World

variable {world : World}

/-- Every event leaves the records in the hands of their runs and changes them only by finishing
them. -/
theorem owned_step (owned : world.service.Owned) (event : Event) :
    (world.step event).service.Owned ∧
      world.service.runs.Evolves (world.step event).service.runs := by
  cases event with
  | move move now => exact owned.path (world.service.path_move move)
  | _ => exact ⟨owned, .refl _⟩

/-- And so does every history. -/
theorem owned_replay (owned : world.service.Owned) (events : List Event) :
    (world.replay events).service.Owned ∧
      world.service.runs.Evolves (world.replay events).service.runs := by
  induction events generalizing world with
  | nil => exact ⟨owned, .refl _⟩
  | cons event rest ih =>
    obtain ⟨next, evolves⟩ := owned_step owned event
    obtain ⟨last, others⟩ := ih next
    exact ⟨last, evolves.trans others⟩

/-- The number of a run that an event opens was free before it and is taken after it. -/
theorem taken_of_opens (owned : world.service.Owned) {event : Event} {id : RunId}
    (opens : world.opens? event = some id) :
    world.service.runs.find? id = none ∧ (world.step event).service.runs.find? id ≠ none := by
  cases event with
  | move move now =>
    obtain ⟨free, rfl, loan, path⟩ := Service.path_of_opens opens
    refine ⟨free, ?_⟩
    obtain ⟨-, evolves⟩ := (owned.step (.opens loan free)).path path
    obtain ⟨record, found, -⟩ := evolves _ _ (world.service.find?_withOpened loan)
    rw [step, found]
    exact Option.some_ne_none record
  | edit | directoryOutage | storeOutage | evaluator => cases opens

/-- No number is given to two runs, nor one that was taken from the outset. -/
theorem nodup_openedRuns (owned : world.service.Owned) (events : List Event) :
    (world.openedRuns events).Nodup ∧
      ∀ id ∈ world.openedRuns events, world.service.runs.find? id = none := by
  induction events generalizing world with
  | nil => exact ⟨List.nodup_nil, fun _ member => by cases member⟩
  | cons event rest ih =>
    obtain ⟨next, evolves⟩ := owned_step owned event
    obtain ⟨distinct, free⟩ := ih next
    -- What was filed before the event still is, so what is free after it was free before.
    have free_before : ∀ id ∈ (world.step event).openedRuns rest,
        world.service.runs.find? id = none := by
      intro id member
      rw [Option.eq_none_iff_forall_ne_some]
      intro record found
      obtain ⟨later, present, -⟩ := evolves id record found
      rw [free id member] at present
      cases present
    cases opens : world.opens? event with
    | none =>
      simp only [openedRuns, opens, Option.toList_none, List.nil_append]
      exact ⟨distinct, free_before⟩
    | some opened =>
      obtain ⟨unused, taken⟩ := taken_of_opens owned opens
      simp only [openedRuns, opens, Option.toList_some, List.singleton_append]
      refine ⟨List.nodup_cons.mpr ⟨fun again => taken (free opened again), distinct⟩, ?_⟩
      intro id member
      rcases List.mem_cons.mp member with rfl | member
      · exact unused
      · exact free_before id member

end World

end Underwriting
