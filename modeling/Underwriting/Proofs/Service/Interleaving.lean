import Underwriting.Proofs.Service.Courses
import Underwriting.Service.Sample

/-! # Runs that interleave

Started runs share the store, and their steps may come in any order. While the directory stays as it
is and the store does not fail, each run goes its way as if it were alone, and at the end the store
holds what the run would have come to by itself, instants aside. Which record stands under which
number depends on the order in which the runs were opened and on nothing else, so all complete
interleavings lead to one store.
-/

namespace Underwriting

namespace Service

variable {verdict : LoanId → Verdict} {surroundings : Surroundings} {base : RunStore}
  {service : Service}

/-- Two services have opened the same runs in the same order, and their stores have records under
the same numbers. -/
structure Alike (first second : Service) : Prop where
  nextRun : first.nextRun = second.nextRun
  taken : ∀ id, (first.runs.find? id).isSome = (second.runs.find? id).isSome
  requests : first.flights.map Flight.request = second.flights.map Flight.request

namespace Alike

variable {first second third : Service}

theorem refl (service : Service) : service.Alike service := ⟨rfl, fun _ => rfl, rfl⟩

theorem symm (alike : first.Alike second) : second.Alike first :=
  ⟨alike.nextRun.symm, fun id => (alike.taken id).symm, alike.requests.symm⟩

theorem trans (left : first.Alike second) (right : second.Alike third) : first.Alike third where
  nextRun := left.nextRun.trans right.nextRun
  taken id := (left.taken id).trans (right.taken id)
  requests := left.requests.trans right.requests

theorem hasFreeNumber_iff (alike : first.Alike second) :
    first.HasFreeNumber ↔ second.HasFreeNumber := by
  have same := alike.taken ⟨first.nextRun⟩
  rw [HasFreeNumber, HasFreeNumber, ← alike.nextRun, ← Option.not_isSome_iff_eq_none, same,
    Option.not_isSome_iff_eq_none]

/-- Starting a run does to one of them what it does to the other. -/
theorem startRun (alike : first.Alike second) {other : Surroundings}
    (healthy : surroundings.outage = .none) (also : other.outage = .none) (loan : LoanId) :
    (first.startRun surroundings loan).2.Alike (second.startRun other loan).2 := by
  by_cases free : first.HasFreeNumber
  · rw [startRun_of_free loan healthy free,
      startRun_of_free loan also (alike.hasFreeNumber_iff.mp free)]
    refine ⟨congrArg (· + 1) alike.nextRun, fun id => ?_, ?_⟩
    · simp only [withOpened, Register.find?_put, alike.nextRun]
      split
      · rfl
      · exact alike.taken id
    · simp only [withOpened, List.map_append, alike.requests, alike.nextRun, List.map_cons,
        List.map_nil, Flight.request]
  · rw [(startRun_of_taken loan free).2,
      (startRun_of_taken loan (mt alike.hasFreeNumber_iff.mpr free)).2]
    exact ⟨congrArg (· + 1) alike.nextRun, alike.taken, alike.requests⟩

end Alike

/-- A step of a run opens none and files no record under a new number. -/
theorem OnCourse.alike_advance (course : service.OnCourse verdict base)
    (healthy : surroundings.outage = .none)
    (judges : ∀ loan, surroundings.judge loan = verdict loan) (moved : Nat) :
    (service.advance surroundings moved).Alike service := by
  have requests := course.requests_advance healthy judges moved
  cases moves : service.flights[moved]? with
  | none =>
    rw [advance_of_absent moves]
    exact .refl service
  | some mover =>
    obtain ⟨_, isOnCourse⟩ := course.flights mover (List.mem_of_getElem? moves)
    have advances := isOnCourse.step healthy judges
    rw [advance_of_present moves] at requests ⊢
    refine ⟨rfl, fun id => ?_, requests⟩
    by_cases own : id = mover.run
    · have held := advances.course.isSome_find?
      rw [advances.run] at held
      rw [own, isOnCourse.isSome_find?]
      exact held
    · exact congrArg Option.isSome (advances.others id own)

/-- A run that is opened and ends at once, with no other beside it, has the record that a run under
its number comes to, instants aside. -/
theorem runMatch_alone {alone : Service} {id : RunId} (number : alone.nextRun = id.value)
    (healthy : surroundings.outage = .none) (free : alone.HasFreeNumber) (loan : LoanId)
    (created ended : Timestamp) :
    ∃ other, (alone.runMatch surroundings loan).1 = .ok other ∧
      ((MatchRun.opened id loan created).concluded (surroundings.judge loan) ended).untimed =
        other.untimed := by
  refine ⟨_, runMatch_of_healthy loan healthy free, ?_⟩
  obtain ⟨value⟩ := id
  subst number
  rfl

/-- Services that have opened the same runs, which are all over, hold the same records, instants
aside. -/
theorem OnCourse.same_records {other : Service} (course : service.OnCourse verdict base)
    (also : other.OnCourse verdict base) (alike : service.Alike other)
    (isOver : ∀ flight ∈ service.flights, flight.IsOver)
    (alsoOver : ∀ flight ∈ other.flights, flight.IsOver) (id : RunId) :
    (service.runs.find? id).map MatchRun.untimed = (other.runs.find? id).map MatchRun.untimed := by
  have recorded {held : Service} (onCourse : held.OnCourse verdict base)
      (ended : ∀ flight ∈ held.flights, flight.IsOver) {loan : LoanId}
      (requested : (id, loan) ∈ held.flights.map Flight.request) :
      (held.runs.find? id).map MatchRun.untimed =
        some ((MatchRun.opened id loan .epoch).concluded (verdict loan) .epoch).untimed := by
    obtain ⟨flight, member, same⟩ := List.mem_map.mp requested
    obtain ⟨rfl, rfl⟩ := Prod.mk.inj same
    obtain ⟨left, isOnCourse⟩ := onCourse.flights flight member
    have none := isOnCourse.eq_zero_of_isOver (ended flight member)
    subst none
    obtain ⟨created, now, -, found⟩ := isOnCourse.at_end
    rw [found]
    rfl
  by_cases requested : id ∈ service.flights.map (·.run)
  · obtain ⟨flight, member, own⟩ := List.mem_map.mp requested
    have pair : (id, flight.loan) ∈ service.flights.map Flight.request :=
      List.mem_map.mpr ⟨flight, member, Prod.ext own rfl⟩
    rw [recorded course isOver pair, recorded also alsoOver (alike.requests ▸ pair)]
  · have runs := congrArg (List.map Prod.fst) alike.requests
    rw [List.map_map, List.map_map] at runs
    have absent : id ∉ other.flights.map (·.run) := by
      intro present
      exact requested (runs.symm ▸ present)
    rw [course.others id requested, also.others id absent]

end Service

namespace Event

/-- The event starts a run or lets a started one take a step. -/
def IsOfCourse : Event → Prop
  | .move (.startRun _) _ | .move (.advance _) _ => True
  | _ => False

/-- The event lets the run at a place take a step. -/
def advances (place : Nat) : Event → Bool
  | .move (.advance moved) _ => moved = place
  | _ => false

/-- The application of the run that the event starts. -/
def startsFor? : Event → Option LoanId
  | .move (.startRun loan) _ => some loan
  | _ => none

/-- An event of the course starts a run or lets one take a step. -/
theorem IsOfCourse.cases {event : Event} (ofCourse : event.IsOfCourse) :
    (∃ loan now, event = .move (.startRun loan) now) ∨
      ∃ place now, event = .move (.advance place) now := by
  unfold IsOfCourse at ofCourse
  split at ofCourse
  · exact .inl ⟨_, _, rfl⟩
  · exact .inr ⟨_, _, rfl⟩
  · cases ofCourse

end Event

namespace World

variable {verdict : LoanId → Verdict} {base : RunStore} {world : World}

/-- The store does not fail, the directory determines these verdicts, and all runs are on their
course to them. -/
structure IsOnCourse (world : World) (verdict : LoanId → Verdict) (base : RunStore) : Prop where
  healthy : world.storeOutage = .none
  judges : ∀ loan, world.verdict loan = verdict loan
  service : world.service.OnCourse verdict base

theorem IsOnCourse.judges_at (course : world.IsOnCourse verdict base) (now : Timestamp)
    (loan : LoanId) : (world.surroundings now).judge loan = verdict loan :=
  (world.judge_surroundings now loan).trans (course.judges loan)

theorem IsOnCourse.step (course : world.IsOnCourse verdict base) {event : Event}
    (ofCourse : event.IsOfCourse) : (world.step event).IsOnCourse verdict base := by
  rcases ofCourse.cases with ⟨loan, now, rfl⟩ | ⟨place, now, rfl⟩
  · exact ⟨course.healthy, course.judges, course.service.startRun loan course.healthy⟩
  · exact ⟨course.healthy, course.judges,
      course.service.advance course.healthy (course.judges_at now) place⟩

theorem IsOnCourse.replay (course : world.IsOnCourse verdict base) {events : List Event}
    (ofCourse : ∀ event ∈ events, event.IsOfCourse) :
    (world.replay events).IsOnCourse verdict base := by
  induction events generalizing world with
  | nil => exact course
  | cons event rest ih =>
    obtain ⟨first, others⟩ := List.forall_mem_cons.mp ofCourse
    exact ih (course.step first) others

/-- Each of its steps brings a run one step further, and no other event holds it up. -/
theorem hasLeft_replay (course : world.IsOnCourse verdict base) {events : List Event}
    (ofCourse : ∀ event ∈ events, event.IsOfCourse) {place : Nat} {id : RunId} {loan : LoanId}
    {left : Nat} (has : world.service.HasLeft verdict place id loan left) :
    (world.replay events).service.HasLeft verdict place id loan
      (left - events.countP (Event.advances place)) := by
  induction events generalizing world left with
  | nil => exact has
  | cons event rest ih =>
    obtain ⟨first, others⟩ := List.forall_mem_cons.mp ofCourse
    have next := course.step first
    rcases first.cases with ⟨other, now, rfl⟩ | ⟨moved, now, rfl⟩
    · rw [List.countP_cons_of_neg Bool.false_ne_true]
      exact ih next others (has.startRun other course.healthy)
    · have stepped := has.advance course.healthy (course.judges_at now) course.service moved
      have counted : left - ((.move (.advance moved) now) :: rest).countP (Event.advances place) =
          (if moved = place then left - 1 else left) - rest.countP (Event.advances place) := by
        rw [List.countP_cons]
        by_cases same : moved = place
        · simp only [Event.advances, same, decide_true, ↓reduceIte]
          omega
        · simp only [Event.advances, same, decide_false, Bool.false_eq_true, ↓reduceIte,
            Nat.add_zero]
      rw [counted]
      exact ih next others stepped

/-- Which runs are opened under which numbers depends on what they are started for, in which order,
and on nothing that happens in between. -/
theorem alike_replay (course : world.IsOnCourse verdict base) {events : List Event}
    (ofCourse : ∀ event ∈ events, event.IsOfCourse) (surroundings : Surroundings)
    (healthy : surroundings.outage = .none) {service : Service}
    (alike : world.service.Alike service) :
    (world.replay events).service.Alike ((events.filterMap Event.startsFor?).foldl
      (fun service loan => (service.startRun surroundings loan).2) service) := by
  induction events generalizing world service with
  | nil => exact alike
  | cons event rest ih =>
    obtain ⟨first, others⟩ := List.forall_mem_cons.mp ofCourse
    have next := course.step first
    rcases first.cases with ⟨loan, now, rfl⟩ | ⟨moved, now, rfl⟩
    · exact ih next others (alike.startRun course.healthy healthy loan)
    · have still := course.service.alike_advance course.healthy (course.judges_at now) moved
      exact ih next others (still.trans alike)

/-- An event leaves a record as it is, unless it is a step of the run that the record is of. -/
theorem IsOnCourse.keeps (course : world.IsOnCourse verdict base) {event : Event}
    (ofCourse : event.IsOfCourse) {id : RunId} {record : MatchRun}
    (found : world.service.runs.find? id = some record) :
    (world.step event).service.runs.find? id = some record ∨
      ∃ place now, event = .move (.advance place) now ∧
        (world.service.flights[place]?).map (·.run) = some id := by
  rcases ofCourse.cases with ⟨loan, now, rfl⟩ | ⟨place, now, rfl⟩
  · left
    simp only [World.step, Service.move]
    by_cases free : world.service.HasFreeNumber
    · have different : id ≠ ⟨world.service.nextRun⟩ := by
        rintro rfl
        rw [free] at found
        cases found
      rw [Service.startRun_of_free loan course.healthy free]
      exact (Register.find?_put _ _ _ _).trans ((if_neg different).trans found)
    · rw [(Service.startRun_of_taken loan free).2]
      exact found
  · cases moves : world.service.flights[place]? with
    | none =>
      left
      simp only [World.step, Service.move, Service.advance_of_absent moves]
      exact found
    | some mover =>
      by_cases own : id = mover.run
      · exact .inr ⟨place, now, rfl, by rw [moves, Option.map_some, own]⟩
      · left
        obtain ⟨_, isOnCourse⟩ := course.service.flights mover (List.mem_of_getElem? moves)
        have advances := isOnCourse.step course.healthy (course.judges_at now)
        simp only [World.step, Service.move, Service.advance_of_present moves]
        exact (advances.others id own).trans found

/-- After its three steps a started run has ended, and the store holds its record. -/
theorem IsOnCourse.ended_of_steps (course : world.IsOnCourse verdict base) {loan : LoanId}
    {now : Timestamp} {run : MatchRun} {after : List Event}
    (started : (world.service.startRun (world.surroundings now) loan).1 = .ok run)
    (ofCourse : ∀ event ∈ after, event.IsOfCourse)
    (steps : 3 ≤ after.countP (Event.advances world.service.flights.length)) :
    let reached := (world.step (.move (.startRun loan) now)).replay after
    ∃ created ended,
      let record := (MatchRun.opened run.id loan created).concluded (verdict loan) ended
      reached.service.runs.find? run.id = some record ∧
        reached.service.flights[world.service.flights.length]? =
          some ⟨run.id, loan, .ended (.ok record)⟩ := by
  intro reached
  have begun : (world.step (.move (.startRun loan) now)).service.HasLeft verdict
      world.service.flights.length run.id loan 3 :=
    Service.hasLeft_startRun loan course.healthy started
  have starts : (Event.move (.startRun loan) now).IsOfCourse := trivial
  obtain ⟨flight, present, own, ofLoan, isOnCourse⟩ :=
    hasLeft_replay (course.step starts) ofCourse begun
  rw [Nat.sub_eq_zero_of_le steps] at isOnCourse
  obtain ⟨created, ended, same, found⟩ := isOnCourse.at_end
  rw [own, ofLoan] at same found
  exact ⟨created, ended, found, same ▸ present⟩

theorem replay_split (world : World) (before : List Event) (event : Event) (after : List Event) :
    world.replay (before ++ event :: after) =
      ((world.replay before).step event).replay after := by
  rw [replay, List.foldl_append, List.foldl_cons]
  rfl

/-- Started runs do not interfere. Once a run has had its three steps, wherever those come among the
steps of others, it has ended, and the store holds what the run would have come to alone under its
number. Runs have numbers of their own, a step leaves the records of others as they are, and all
complete interleavings of runs for the same applications lead to the same store, instants aside. -/
theorem replay_interleaved (healthy : world.storeOutage = .none)
    (idle : world.service.flights = []) {events : List Event}
    (ofCourse : ∀ event ∈ events, event.IsOfCourse) :
    let reached := world.replay events
    (∀ before after loan now run, events = before ++ .move (.startRun loan) now :: after →
      let source := world.replay before
      let place := source.service.flights.length
      (source.service.startRun (source.surroundings now) loan).1 = .ok run →
      3 ≤ after.countP (Event.advances place) →
      ∃ record, reached.service.runs.find? run.id = some record ∧
        record.status.isTerminal = true ∧
        reached.service.flights[place]? = some ⟨run.id, loan, .ended (.ok record)⟩ ∧
        ∀ alone : Service, alone.nextRun = run.id.value → alone.HasFreeNumber → ∀ now, ∃ other,
          (alone.runMatch (world.surroundings now) loan).1 = .ok other ∧
            record.untimed = other.untimed) ∧
      (reached.service.flights.map (·.run)).Nodup ∧
      (∀ before event after, events = before ++ event :: after → ∀ id record,
        (world.replay before).service.runs.find? id = some record →
        ((world.replay before).step event).service.runs.find? id = some record ∨
          ∃ place now, event = .move (.advance place) now ∧
            ((world.replay before).service.flights[place]?).map (·.run) = some id) ∧
      ∀ others : List Event, (∀ event ∈ others, event.IsOfCourse) →
        others.filterMap Event.startsFor? = events.filterMap Event.startsFor? →
        (∀ flight ∈ reached.service.flights, flight.IsOver) →
        (∀ flight ∈ (world.replay others).service.flights, flight.IsOver) →
        ∀ id, (reached.service.runs.find? id).map MatchRun.untimed =
          ((world.replay others).service.runs.find? id).map MatchRun.untimed := by
  intro reached
  have start : world.IsOnCourse world.verdict world.service.runs :=
    ⟨healthy, fun _ => rfl, Service.onCourse_of_idle world.verdict idle⟩
  refine ⟨?_, (start.replay ofCourse).service.distinct, ?_, ?_⟩
  · intro before after loan now run split source place started steps
    subst split
    obtain ⟨early, late⟩ := List.forall_mem_append.mp ofCourse
    obtain ⟨starts, late⟩ := List.forall_mem_cons.mp late
    have middle : source.IsOnCourse world.verdict world.service.runs := start.replay early
    obtain ⟨created, ended, found, atEnd⟩ := middle.ended_of_steps started late steps
    rw [← replay_split] at found atEnd
    refine ⟨_, found, Verdict.isTerminal_status _, atEnd, ?_⟩
    intro alone number free later
    have working : (world.surroundings later).outage = .none := healthy
    exact Service.runMatch_alone number working free loan created ended
  · intro before event after split id record found
    subst split
    obtain ⟨early, late⟩ := List.forall_mem_append.mp ofCourse
    exact (start.replay early).keeps (List.forall_mem_cons.mp late).1 found
  · intro others also same isOver alsoOver id
    have first := alike_replay start ofCourse (world.surroundings .epoch) healthy (.refl _)
    have second := alike_replay start also (world.surroundings .epoch) healthy (.refl _)
    rw [same] at second
    exact (start.replay ofCourse).service.same_records (start.replay also).service
      (first.trans second.symm) isOver alsoOver id

/-- A service with an application that one program accepts. -/
def crossroads : World :=
  opened (Seed.filedCatalog (Seed.application 800000 72 690)) .engine (.ofMilliseconds 2000)

/-- Two runs for that application whose steps cross. -/
def crossing : List Event :=
  [.move (.startRun Seed.sampleLoan) .epoch, .move (.advance 0) .epoch,
    .move (.startRun Seed.sampleLoan) .epoch, .move (.advance 1) .epoch,
    .move (.advance 1) .epoch, .move (.advance 0) .epoch, .move (.advance 0) .epoch,
    .move (.advance 1) .epoch]

/-- The same two runs, of which the later one ends first. -/
def inTurn : List Event :=
  [.move (.startRun Seed.sampleLoan) .epoch, .move (.startRun Seed.sampleLoan) .epoch,
    .move (.advance 1) .epoch, .move (.advance 1) .epoch, .move (.advance 1) .epoch,
    .move (.advance 0) .epoch, .move (.advance 0) .epoch, .move (.advance 0) .epoch]

theorem replay_interleaved_crossing :
    let reached := crossroads.replay crossing
    (∃ record, reached.service.runs.find? ⟨2⟩ = some record ∧ record.status.isTerminal = true ∧
      ∃ other, ((⟨2, .empty, []⟩ : Service).runMatch (crossroads.surroundings .epoch)
        Seed.sampleLoan).1 = .ok other ∧ record.untimed = other.untimed) ∧
      ∀ id, (reached.service.runs.find? id).map MatchRun.untimed =
        ((crossroads.replay inTurn).service.runs.find? id).map MatchRun.untimed := by
  intro reached
  have ofCourse : ∀ event ∈ crossing, event.IsOfCourse := by
    simp only [crossing, List.forall_mem_cons, Event.IsOfCourse, List.not_mem_nil, true_and,
      false_implies, implies_true]
  have alsoOfCourse : ∀ event ∈ inTurn, event.IsOfCourse := by
    simp only [inTurn, List.forall_mem_cons, Event.IsOfCourse, List.not_mem_nil, true_and,
      false_implies, implies_true]
  obtain ⟨alone, -, -, sameStore⟩ := @replay_interleaved crossroads rfl rfl crossing ofCourse
  constructor
  · obtain ⟨record, found, terminal, -, same⟩ := alone (crossing.take 2) (crossing.drop 3)
      Seed.sampleLoan .epoch (.opened ⟨2⟩ Seed.sampleLoan .epoch) rfl rfl (by decide)
    exact ⟨record, found, terminal, same ⟨2, .empty, []⟩ rfl rfl .epoch⟩
  · exact sameStore inTurn alsoOfCourse rfl (by decide +kernel) (by decide +kernel)

end World

end Underwriting
