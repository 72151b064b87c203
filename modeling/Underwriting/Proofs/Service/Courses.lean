import Underwriting.Proofs.Service.Path

/-! # Runs on their course

While the directory stays as it is and the store does not fail, a started run needs three steps.
Every step brings the run one step further and touches no record but its own, starting another run
touches none, and at the end the store holds the conclusion of the record that was opened. The
number of steps that a run has yet to take is part of the invariant, so that progress is counted
along with what is preserved.
-/

namespace Underwriting

section OneRun

variable {verdict : LoanId → Verdict} {surroundings : Surroundings} {store written : RunStore}

/-- A run on its course over a store that does not fail, and how many steps it has yet to take: its
record is as it was opened until the last step, and then it is concluded by the verdict. -/
inductive Flight.OnCourse (verdict : LoanId → Verdict) (store : RunStore) : Flight → Nat → Prop
  | opened {id : RunId} {loan : LoanId} {created : Timestamp} :
      store.find? id = some (.opened id loan created) →
      OnCourse verdict store ⟨id, loan, .opened⟩ 3
  | judged {id : RunId} {loan : LoanId} {created : Timestamp} :
      store.find? id = some (.opened id loan created) →
      OnCourse verdict store ⟨id, loan, .judged (verdict loan)⟩ 2
  | finished {id : RunId} {loan : LoanId} {created now : Timestamp} :
      store.find? id = some (.opened id loan created) →
      OnCourse verdict store
        ⟨id, loan, .finished ((MatchRun.opened id loan created).concluded (verdict loan) now)⟩ 1
  | ended {id : RunId} {loan : LoanId} {created now : Timestamp} :
      store.find? id = some ((MatchRun.opened id loan created).concluded (verdict loan) now) →
      OnCourse verdict store
        ⟨id, loan,
          .ended (.ok ((MatchRun.opened id loan created).concluded (verdict loan) now))⟩ 0

namespace Flight

instance (flight : Flight) : Decidable flight.IsOver :=
  match stage : flight.stage with
  | .ended outcome => .isTrue ⟨outcome, stage⟩
  | .opened | .judged _ | .finished _ => .isFalse <| by
      rintro ⟨outcome, ended⟩
      rw [stage] at ended
      cases ended

/-- Which run this is, and for which loan. -/
def request (flight : Flight) : RunId × LoanId := (flight.run, flight.loan)

variable {flight : Flight} {left : Nat}

/-- The store has a record of the run, however far it is. -/
theorem OnCourse.isSome_find? (course : flight.OnCourse verdict store left) :
    (store.find? flight.run).isSome = true := by
  cases course with
  | opened found | judged found | finished found | ended found => rw [found, Option.isSome_some]

theorem OnCourse.run_ne_of_free (course : flight.OnCourse verdict store left) {id : RunId}
    (free : store.find? id = none) : flight.run ≠ id := by
  rintro rfl
  have present := course.isSome_find?
  rw [free] at present
  cases present

/-- A run stays where it is on its course as long as its record is left alone. -/
theorem OnCourse.of_find?_eq (course : flight.OnCourse verdict store left)
    (same : written.find? flight.run = store.find? flight.run) :
    flight.OnCourse verdict written left := by
  cases course with
  | opened found => exact .opened (same.trans found)
  | judged found => exact .judged (same.trans found)
  | finished found => exact .finished (same.trans found)
  | ended found => exact .ended (same.trans found)

/-- The run at its end has the record that the store holds. -/
theorem OnCourse.at_end (course : flight.OnCourse verdict store 0) :
    ∃ created now,
      let record := (MatchRun.opened flight.run flight.loan created).concluded
        (verdict flight.loan) now
      flight = ⟨flight.run, flight.loan, .ended (.ok record)⟩ ∧
        store.find? flight.run = some record := by
  cases course with
  | ended found => exact ⟨_, _, rfl, found⟩

/-- A run that is over has no step left. -/
theorem OnCourse.eq_zero_of_isOver (course : flight.OnCourse verdict store left)
    (isOver : flight.IsOver) : left = 0 := by
  obtain ⟨outcome, stage⟩ := isOver
  cases course with
  | ended => rfl
  | opened | judged | finished => cases stage

/-- What a step of a run does, its own number and loan aside: it brings the run one step further and
touches no record but its own. -/
structure Advances (flight : Flight) (verdict : LoanId → Verdict) (store : RunStore) (left : Nat)
    (after : Flight) (written : RunStore) : Prop where
  run : after.run = flight.run
  loan : after.loan = flight.loan
  course : after.OnCourse verdict written (left - 1)
  others : ∀ id, id ≠ flight.run → written.find? id = store.find? id

/-- With a store that does not fail every step of a run succeeds. -/
theorem OnCourse.step (course : flight.OnCourse verdict store left)
    (healthy : surroundings.outage = .none)
    (judges : ∀ loan, surroundings.judge loan = verdict loan) :
    flight.Advances verdict store left (flight.step surroundings store).1
      (flight.step surroundings store).2 := by
  cases course with
  | @opened id loan created found =>
    simp only [Flight.step, judges]
    exact ⟨rfl, rfl, .judged found, fun _ _ => rfl⟩
  | @judged id loan created found =>
    have fetched : store.fetch surroundings.outage id = .ok (some (.opened id loan created)) :=
      RunStore.fetch_eq_some_iff.mpr ⟨by rw [healthy]; rfl, by rw [healthy]; rfl, found⟩
    have concluded := MatchRun.conclude_of_isOpen (MatchRun.isOpen_opened id loan created)
      (verdict loan) surroundings.now
    simp only [Flight.step, fetched, concluded]
    exact ⟨rfl, rfl, .finished found, fun _ _ => rfl⟩
  | @finished id loan created now found =>
    have updated : store.update surroundings.outage
        ((MatchRun.opened id loan created).concluded (verdict loan) now) =
          .ok (store.put id ((MatchRun.opened id loan created).concluded (verdict loan) now)) := by
      refine RunStore.update_eq_ok_iff.mpr ⟨by rw [healthy]; rfl, ?_, rfl⟩
      exact (congrArg Option.isSome found).trans rfl
    simp only [Flight.step, updated]
    refine ⟨rfl, rfl, .ended ?_, fun other different => ?_⟩
    · rw [Register.find?_put, if_pos rfl]
    · rw [Register.find?_put, if_neg different]
  | ended found => exact ⟨rfl, rfl, .ended found, fun _ _ => rfl⟩

end Flight

end OneRun

namespace Service

variable {verdict : LoanId → Verdict} {surroundings : Surroundings} {base : RunStore}
  {service : Service}

/-- All runs are on their course under numbers of their own, and the records under other numbers are
those that were there before. -/
structure OnCourse (service : Service) (verdict : LoanId → Verdict) (base : RunStore) : Prop where
  distinct : (service.flights.map (·.run)).Nodup
  flights : ∀ flight ∈ service.flights, ∃ left, flight.OnCourse verdict service.runs left
  others : ∀ id, id ∉ service.flights.map (·.run) → service.runs.find? id = base.find? id

/-- The run at a place, and how many steps it has yet to take. -/
def HasLeft (service : Service) (verdict : LoanId → Verdict) (place : Nat) (id : RunId)
    (loan : LoanId) (left : Nat) : Prop :=
  ∃ flight, service.flights[place]? = some flight ∧ flight.run = id ∧ flight.loan = loan ∧
    flight.OnCourse verdict service.runs left

theorem onCourse_of_idle (verdict : LoanId → Verdict) (idle : service.flights = []) :
    service.OnCourse verdict service.runs where
  distinct := by
    rw [idle]
    exact List.nodup_nil
  flights := by
    rw [idle]
    intro flight member
    cases member
  others _ _ := rfl

section Places

variable {place : Nat} {flight : Flight}

theorem advance_of_absent (absent : service.flights[place]? = none) :
    service.advance surroundings place = service := by
  simp only [advance, absent]

theorem advance_of_present (present : service.flights[place]? = some flight) :
    service.advance surroundings place =
      { service with
        runs := (flight.step surroundings service.runs).2
        flights := service.flights.set place (flight.step surroundings service.runs).1 } := by
  simp only [advance, present]

/-- Runs at different places have different numbers. -/
theorem OnCourse.run_ne (course : service.OnCourse verdict base) {other : Flight} {elsewhere : Nat}
    (present : service.flights[place]? = some flight)
    (also : service.flights[elsewhere]? = some other) (different : place ≠ elsewhere) :
    other.run ≠ flight.run := by
  intro same
  have inRange : place < (service.flights.map (·.run)).length := by
    rw [List.length_map]
    exact (List.getElem?_eq_some_iff.mp present).1
  refine different ((List.getElem?_inj inRange course.distinct).mp ?_)
  rw [List.getElem?_map, List.getElem?_map, present, also, Option.map_some, Option.map_some, same]

end Places

section Steps

variable (healthy : surroundings.outage = .none)
  (judges : ∀ loan, surroundings.judge loan = verdict loan)
include healthy judges

/-- A step of one run brings that run one step further and leaves all others where they are. -/
theorem HasLeft.advance {place : Nat} {id : RunId} {loan : LoanId} {left : Nat}
    (has : service.HasLeft verdict place id loan left) (course : service.OnCourse verdict base)
    (moved : Nat) : (service.advance surroundings moved).HasLeft verdict place id loan
      (if moved = place then left - 1 else left) := by
  obtain ⟨flight, present, rfl, rfl, isOnCourse⟩ := has
  cases moves : service.flights[moved]? with
  | none =>
    have different : moved ≠ place := by
      rintro rfl
      rw [present] at moves
      cases moves
    rw [advance_of_absent moves, if_neg different]
    exact ⟨flight, present, rfl, rfl, isOnCourse⟩
  | some mover =>
    rw [advance_of_present moves]
    by_cases same : moved = place
    · subst same
      rw [present, Option.some.injEq] at moves
      subst moves
      have advances := isOnCourse.step healthy judges
      refine ⟨_, ?_, advances.run, advances.loan, ?_⟩
      · exact List.getElem?_set_self (List.getElem?_eq_some_iff.mp present).1
      · rw [if_pos rfl]
        exact advances.course
    · obtain ⟨_, moverOnCourse⟩ := course.flights mover (List.mem_of_getElem? moves)
      have advances := moverOnCourse.step healthy judges
      rw [if_neg same]
      refine ⟨flight, ?_, rfl, rfl, isOnCourse.of_find?_eq (advances.others _ ?_)⟩
      · exact (List.getElem?_set_ne same).trans present
      · exact course.run_ne moves present same

/-- Every step leaves the runs in their places. -/
theorem OnCourse.requests_advance (course : service.OnCourse verdict base) (moved : Nat) :
    (service.advance surroundings moved).flights.map Flight.request =
      service.flights.map Flight.request := by
  cases moves : service.flights[moved]? with
  | none => rw [advance_of_absent moves]
  | some mover =>
    obtain ⟨_, moverOnCourse⟩ := course.flights mover (List.mem_of_getElem? moves)
    have advances := moverOnCourse.step healthy judges
    have same : (mover.step surroundings service.runs).1.request = mover.request :=
      Prod.ext advances.run advances.loan
    obtain ⟨inRange, rfl⟩ := List.getElem?_eq_some_iff.mp moves
    rw [advance_of_present moves, List.map_set, same, ← List.map_set, List.set_getElem_self]

/-- Every step leaves all runs on their course. -/
theorem OnCourse.advance (course : service.OnCourse verdict base) (moved : Nat) :
    (service.advance surroundings moved).OnCourse verdict base := by
  have requests := course.requests_advance healthy judges moved
  have runs : (service.advance surroundings moved).flights.map (·.run) =
      service.flights.map (·.run) := by
    have firsts := congrArg (List.map Prod.fst) requests
    rw [List.map_map, List.map_map] at firsts
    exact firsts
  refine ⟨runs ▸ course.distinct, ?_, ?_⟩
  · intro other member
    obtain ⟨place, also⟩ := List.mem_iff_getElem?.mp member
    have requested := congrArg (fun requests => requests[place]?) requests
    simp only [List.getElem?_map, also, Option.map_some] at requested
    obtain ⟨flight, present, -⟩ := Option.map_eq_some_iff.mp requested.symm
    obtain ⟨left, isOnCourse⟩ := course.flights flight (List.mem_of_getElem? present)
    have has : service.HasLeft verdict place flight.run flight.loan left :=
      ⟨flight, present, rfl, rfl, isOnCourse⟩
    obtain ⟨after, found, -, -, afterOnCourse⟩ := has.advance healthy judges course moved
    rw [also, Option.some.injEq] at found
    exact found ▸ ⟨_, afterOnCourse⟩
  · intro id absent
    rw [runs] at absent
    rw [← course.others id absent]
    cases moves : service.flights[moved]? with
    | none => rw [advance_of_absent moves]
    | some mover =>
      have member := List.mem_of_getElem? moves
      obtain ⟨_, moverOnCourse⟩ := course.flights mover member
      rw [advance_of_present moves]
      refine (moverOnCourse.step healthy judges).others id ?_
      rintro rfl
      exact absent (List.mem_map_of_mem member)

end Steps

section Opening

variable (loan : LoanId)

/-- With a store that does not fail a run is started under the next number if that is free. -/
theorem startRun_of_free (healthy : surroundings.outage = .none) (free : service.HasFreeNumber) :
    service.startRun surroundings loan =
      (.ok (service.nextOpened surroundings loan), service.withOpened surroundings loan) := by
  have inserted : service.runs.insert surroundings.outage (service.nextOpened surroundings loan) =
      .ok (service.runs.put ⟨service.nextRun⟩ (service.nextOpened surroundings loan)) :=
    RunStore.insert_eq_ok_iff.mpr ⟨by rw [healthy]; rfl, free, rfl⟩
  refine startRun_of_opened ?_
  unfold nextOpened at inserted
  simp only [openRun, inserted]
  rfl

/-- A number that is taken is used up in vain. -/
theorem startRun_of_taken (taken : ¬ service.HasFreeNumber) :
    (∃ error, (service.startRun surroundings loan).1 = .error error) ∧
      (service.startRun surroundings loan).2 = { service with nextRun := service.nextRun + 1 } := by
  rcases service.openRun_cases surroundings loan with ⟨cause, refused⟩ | ⟨free, -⟩
  · simp only [startRun, refused]
    exact ⟨⟨_, rfl⟩, trivial⟩
  · exact absurd free taken

/-- Starting a run leaves the runs on their course, and the new one begins its own. -/
theorem OnCourse.withOpened (course : service.OnCourse verdict base)
    (free : service.HasFreeNumber) :
    (service.withOpened surroundings loan).OnCourse verdict base := by
  have others (flight : Flight) (member : flight ∈ service.flights) :
      flight.run ≠ ⟨service.nextRun⟩ := by
    obtain ⟨_, isOnCourse⟩ := course.flights flight member
    exact isOnCourse.run_ne_of_free free
  refine ⟨?_, ?_, ?_⟩
  · simp only [Service.withOpened, List.map_append, List.map_cons, List.map_nil]
    refine List.nodup_append.mpr ⟨course.distinct, List.pairwise_singleton _ _, ?_⟩
    intro id held other new
    obtain ⟨flight, member, rfl⟩ := List.mem_map.mp held
    rw [List.mem_singleton.mp new]
    exact others flight member
  · intro flight member
    rcases List.mem_append.mp member with member | new
    · obtain ⟨left, isOnCourse⟩ := course.flights flight member
      refine ⟨left, isOnCourse.of_find?_eq ?_⟩
      rw [Service.withOpened, Register.find?_put, if_neg (others flight member)]
    · rw [List.mem_singleton.mp new]
      exact ⟨3, .opened ((Register.find?_put _ _ _ _).trans (if_pos rfl))⟩
  · intro id absent
    simp only [Service.withOpened, List.map_append, List.map_cons, List.map_nil, List.mem_append,
      List.mem_singleton, not_or] at absent
    rw [Service.withOpened, Register.find?_put, if_neg absent.2]
    exact course.others id absent.1

theorem OnCourse.startRun (course : service.OnCourse verdict base)
    (healthy : surroundings.outage = .none) :
    (service.startRun surroundings loan).2.OnCourse verdict base := by
  by_cases free : service.HasFreeNumber
  · rw [startRun_of_free loan healthy free]
    exact course.withOpened loan free
  · rw [(startRun_of_taken loan free).2]
    exact ⟨course.distinct, course.flights, course.others⟩

/-- The run that was started stands behind all others and has its three steps to take. -/
theorem hasLeft_startRun (healthy : surroundings.outage = .none) {run : MatchRun}
    (started : (service.startRun surroundings loan).1 = .ok run) :
    (service.startRun surroundings loan).2.HasLeft verdict service.flights.length run.id loan
      3 := by
  by_cases free : service.HasFreeNumber
  · rw [startRun_of_free loan healthy free] at started ⊢
    rw [← Except.ok.inj started]
    refine ⟨⟨⟨service.nextRun⟩, loan, .opened⟩, ?_, rfl, rfl, ?_⟩
    · exact List.getElem?_concat_length
    · exact .opened ((Register.find?_put _ _ _ _).trans (if_pos rfl))
  · obtain ⟨error, refused⟩ := (startRun_of_taken loan free).1
    rw [refused] at started
    cases started

/-- Starting another run leaves a run where it is. -/
theorem HasLeft.startRun {place : Nat} {id : RunId} {held : LoanId} {left : Nat}
    (has : service.HasLeft verdict place id held left) (healthy : surroundings.outage = .none) :
    (service.startRun surroundings loan).2.HasLeft verdict place id held left := by
  by_cases free : service.HasFreeNumber
  · obtain ⟨flight, present, own, ofLoan, isOnCourse⟩ := has
    rw [startRun_of_free loan healthy free]
    refine ⟨flight, ?_, own, ofLoan, isOnCourse.of_find?_eq ?_⟩
    · exact (List.getElem?_append_left (List.getElem?_eq_some_iff.mp present).1).trans present
    · rw [Service.withOpened, Register.find?_put, if_neg (isOnCourse.run_ne_of_free free)]
  · rw [(startRun_of_taken loan free).2]
    exact has

end Opening

end Service

end Underwriting
