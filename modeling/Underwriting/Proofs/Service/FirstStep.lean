import Underwriting.Directory.Seed
import Underwriting.Proofs.Service.Judgement
import Underwriting.Proofs.Service.Ownership

/-! # The first step of a started run

A started run takes its snapshot in its first step, and not when it is opened. Its results are those
that the directory determines at that step: what is edited before it counts, and what is edited
after it does not. So a run finishes with the results that were determined when it was started only
if nothing that is edited before its first step changes them.
-/

namespace Underwriting

/-- A record says what a verdict says. -/
structure MatchRun.Carries (run : MatchRun) (verdict : Verdict) : Prop where
  status : run.status = verdict.status
  results : run.results = verdict.results
  failure : run.failure? = verdict.failure?

theorem MatchRun.carries_concluded (run : MatchRun) (verdict : Verdict) (now : Timestamp) :
    (run.concluded verdict now).Carries verdict :=
  ⟨rfl, rfl, rfl⟩

/-- A run that has taken its snapshot goes on with the verdict that it got. -/
def Stage.Carries (verdict : Verdict) : Stage → Prop
  | .opened => False
  | .judged found => found = verdict
  | .finished done => done.Carries verdict
  | .ended _ => True

/-- A run that has taken its snapshot makes of its open record what its verdict says. -/
theorem Flight.Moves.carries {surroundings : Surroundings} {flight after : Flight}
    {store written : RunStore} {verdict : Verdict}
    (moves : flight.Moves surroundings store after written) (owns : flight.Owns store)
    (carries : flight.stage.Carries verdict) : after.stage.Carries verdict := by
  cases moves with
  | judges stage =>
    rw [stage] at carries
    cases carries
  | finishes stage found concluded =>
    rw [stage] at carries
    rw [(owns.of_conclude stage found concluded).2, carries]
    exact MatchRun.carries_concluded _ _ _
  | writes => trivial
  | givesUp => trivial
  | rests => exact carries

namespace Service

/-- A run on an application waits for its first step. -/
def Waits (service : Service) (id : RunId) (loan : LoanId) : Prop :=
  ⟨id, loan, .opened⟩ ∈ service.flights

/-- A run has taken its snapshot and got a verdict: its record is open still or says what the
verdict says, and the run goes on with no other verdict. -/
structure Judged (service : Service) (id : RunId) (verdict : Verdict) : Prop where
  record : ∃ run, service.runs.find? id = some run ∧ (run.IsOpen ∨ run.Carries verdict)
  flights : ∀ flight ∈ service.flights, flight.run = id → flight.stage.Carries verdict

theorem Judged.not_waits {service : Service} {id : RunId} {verdict : Verdict}
    (judged : service.Judged id verdict) (loan : LoanId) : ¬ service.Waits id loan :=
  fun waits => judged.flights _ waits rfl

variable {surroundings : Surroundings} {source target : Service} {id : RunId} {loan : LoanId}
  {verdict : Verdict}

theorem Owned.eq_of_run_eq (owned : source.Owned) {first second : Flight}
    (left : first ∈ source.flights) (right : second ∈ source.flights)
    (same : first.run = second.run) : first = second :=
  List.inj_on_of_nodup_map owned.distinct left right same

/-- The step that ends the wait of a run gives it the verdict by the surroundings of that step. -/
theorem Waits.step (step : AtomicStep surroundings source target) (owned : source.Owned)
    (waits : source.Waits id loan) :
    target.Waits id loan ∨ target.Judged id (surroundings.judge loan) := by
  have owned_after := owned.step step
  unfold Waits at waits
  cases step with
  | skips => exact .inl waits
  | opens => exact .inl (List.mem_append_left _ waits)
  | @moves before rest flight after written split moves =>
    have member : flight ∈ source.flights := split ▸ mem_course_iff.mpr (.inl rfl)
    by_cases same : flight.run = id
    · -- The waiting run is the only one with its number, so it is the run that moves.
      obtain rfl := owned.eq_of_run_eq member waits same
      obtain ⟨record, found, isOpen⟩ := owned.owns _ waits
      cases moves with
      | judges stage =>
        refine .inr ⟨⟨record, found, .inl isOpen⟩, ?_⟩
        intro other present sameRun
        rw [owned_after.eq_of_run_eq present (mem_course_iff.mpr (.inl rfl)) sameRun]
        rfl
      | finishes stage => cases stage
      | writes stage => cases stage
      | givesUp moved => exact absurd rfl moved
      | rests stage => cases stage
    · refine .inl (mem_course_iff.mpr (.inr ?_))
      rw [split] at waits
      rcases mem_course_iff.mp waits with rfl | kept
      · exact absurd rfl same
      · exact kept
  | @forgets before rest flight split isOver =>
    rw [split] at waits
    rcases mem_course_iff.mp waits with rfl | kept
    · obtain ⟨outcome, stage⟩ := isOver
      cases stage
    · exact .inl kept

/-- A run that has taken its snapshot keeps to its verdict, whatever the surroundings are by now. -/
theorem Judged.step (step : AtomicStep surroundings source target) (owned : source.Owned)
    (judged : source.Judged id verdict) : target.Judged id verdict := by
  obtain ⟨record, found, carries⟩ := judged.record
  cases step with
  | skips => exact ⟨judged.record, judged.flights⟩
  | opens opened free =>
    have other : id ≠ ⟨source.nextRun⟩ := by
      rintro rfl
      rw [free] at found
      cases found
    refine ⟨⟨record, ?_, carries⟩, ?_⟩
    · rw [withOpened, Register.find?_put, if_neg other, found]
    · intro flight member sameRun
      rcases List.mem_append.mp member with member | new
      · exact judged.flights flight member sameRun
      · rw [List.mem_singleton.mp new] at sameRun
        exact absurd sameRun.symm other
  | @moves before rest flight after written split moves =>
    have member : flight ∈ source.flights := split ▸ mem_course_iff.mpr (.inl rfl)
    have course : flight.run = id → flight.stage.Carries verdict := judged.flights flight member
    refine ⟨?_, ?_⟩
    · rcases moves.store_cases (owned.owns flight member) owned.filed with
        rfl | ⟨held, given, now, present, isOpen, stage, rfl⟩
      · exact judged.record
      · by_cases same : id = flight.run
        · rw [stage] at course
          refine ⟨held.concluded given now, ?_, .inr (course same.symm)⟩
          rw [Register.find?_put, if_pos same]
        · exact ⟨record, by rw [Register.find?_put, if_neg same, found], carries⟩
    · intro other present sameRun
      rcases mem_course_iff.mp present with rfl | kept
      · rw [moves.run] at sameRun
        exact moves.carries (owned.owns flight member) (course sameRun)
      · exact judged.flights other (split ▸ mem_course_iff.mpr (.inr kept)) sameRun
  | @forgets before rest flight split isOver =>
    exact ⟨judged.record, fun other present sameRun =>
      judged.flights other (split ▸ mem_course_iff.mpr (.inr present)) sameRun⟩

theorem Judged.path (path : Path surroundings source target) (owned : source.Owned)
    (judged : source.Judged id verdict) : target.Judged id verdict := by
  induction path with
  | nil => exact judged
  | cons step _ ih => exact ih (owned.step step) (judged.step step owned)

theorem Waits.path (path : Path surroundings source target) (owned : source.Owned)
    (waits : source.Waits id loan) :
    target.Waits id loan ∨ target.Judged id (surroundings.judge loan) := by
  induction path with
  | nil => exact .inl waits
  | cons step rest ih =>
    rcases waits.step step owned with waits | judged
    · exact ih (owned.step step) waits
    · exact .inr (judged.path rest (owned.step step))

end Service

namespace World

variable {world : World} {id : RunId} {loan : LoanId} {verdict : Verdict}

/-- A world that a new service can come to. -/
def IsReachable (world : World) : Prop :=
  ∃ catalog evaluator budget history, world = (opened catalog evaluator budget).replay history

theorem IsReachable.owned (reachable : world.IsReachable) : world.service.Owned := by
  obtain ⟨catalog, evaluator, budget, history, rfl⟩ := reachable
  exact (owned_replay Service.owned_new history).1

/-- A run on an application takes its first step in the event that comes after others. -/
def FirstStepIn (world : World) (id : RunId) (loan : LoanId) (before : List Event)
    (event : Event) : Prop :=
  (world.replay before).service.Waits id loan ∧
    ¬ ((world.replay before).step event).service.Waits id loan

/-- A run that is opened and begins its course waits for its first step. -/
theorem waits_startRun {now : Timestamp} {run : MatchRun}
    (started : (world.service.startRun (world.surroundings now) loan).1 = .ok run) :
    (world.step (.move (.startRun loan) now)).service.Waits run.id loan := by
  have opened : (world.service.openRun (world.surroundings now) loan).1 = .ok run := by
    rcases world.service.openRun_cases (world.surroundings now) loan with
      ⟨cause, refused⟩ | ⟨-, filed⟩
    · simp only [Service.startRun, refused] at started
      cases started
    · simp only [Service.startRun, filed] at started
      rw [filed, ← started]
  obtain ⟨-, rfl⟩ := Service.openRun_eq_ok opened
  simp only [step, Service.move, Service.startRun_of_opened opened]
  exact List.mem_append_right _ (List.mem_singleton.mpr rfl)

theorem waits_step (owned : world.service.Owned) (waits : world.service.Waits id loan)
    (event : Event) : (world.step event).service.Waits id loan ∨
      (world.step event).service.Judged id (world.verdict loan) := by
  cases event with
  | move move now =>
    rw [← judge_surroundings world now]
    exact waits.path (world.service.path_move move) owned
  | _ => exact .inl waits

theorem judged_replay (owned : world.service.Owned) (judged : world.service.Judged id verdict)
    (events : List Event) : (world.replay events).service.Judged id verdict := by
  induction events generalizing world with
  | nil => exact judged
  | cons event rest ih =>
    refine ih (owned_step owned event).1 ?_
    cases event with
    | move move now => exact judged.path (world.service.path_move move) owned
    | _ => exact judged

/-- A waiting run waits on, or it has taken its first step in one of the events and goes on with
the verdict that was due then. -/
theorem waits_replay (owned : world.service.Owned) (waits : world.service.Waits id loan)
    (events : List Event) : (world.replay events).service.Waits id loan ∨
      ∃ before event rest, events = before ++ event :: rest ∧
        world.FirstStepIn id loan before event ∧
        (world.replay events).service.Judged id ((world.replay before).verdict loan) := by
  induction events generalizing world with
  | nil => exact .inl waits
  | cons event rest ih =>
    have owned_after := (owned_step owned event).1
    rcases waits_step owned waits event with still | judged
    · rcases ih owned_after still with still | ⟨before, first, after, rfl, begins, judged⟩
      · exact .inl still
      · exact .inr ⟨event :: before, first, after, rfl, begins, judged⟩
    · exact .inr ⟨[], event, rest, rfl, ⟨waits, judged.not_waits loan⟩,
        judged_replay owned_after judged rest⟩

/-- Moves of the service leave what the directory determines as it is. -/
theorem verdict_replay_of_moves {events : List Event}
    (moves : ∀ event ∈ events, ∃ move now, event = .move move now) (loan : LoanId) :
    (world.replay events).verdict loan = world.verdict loan := by
  induction events generalizing world with
  | nil => rfl
  | cons event rest ih =>
    obtain ⟨move, now, rfl⟩ := moves event List.mem_cons_self
    exact ih fun later member => moves later (List.mem_cons_of_mem _ member)

/-- A started run finishes with what the directory determines when the run takes its first step.
These are the results that were determined when it was started exactly if what happened until its
first step left them as they were; moves of the service alone do. -/
theorem replay_finishes_by_first_step (reachable : world.IsReachable) {now : Timestamp}
    {run record : MatchRun} (events : List Event)
    (started : (world.service.startRun (world.surroundings now) loan).1 = .ok run)
    (found : ((world.step (.move (.startRun loan) now)).replay events).service.runs.find? run.id =
      some record)
    (finished : record.status.isTerminal = true) :
    let start := world.step (.move (.startRun loan) now)
    ∃ before event rest, events = before ++ event :: rest ∧
      start.FirstStepIn run.id loan before event ∧
      record.Carries ((start.replay before).verdict loan) ∧
      (record.results = Verdict.results (start.verdict loan) ↔
        Verdict.results ((start.replay before).verdict loan) =
          Verdict.results (start.verdict loan)) ∧
      ((∀ event ∈ before, ∃ move now, event = .move move now) →
        record.Carries (start.verdict loan)) := by
  intro start
  have owned : start.service.Owned := (owned_step reachable.owned _).1
  have waits : start.service.Waits run.id loan := waits_startRun started
  have not_open : ¬ record.IsOpen := by
    intro isOpen
    rw [isOpen.status] at finished
    cases finished
  rcases waits_replay owned waits events with still | ⟨before, event, rest, split, begins, judged⟩
  · obtain ⟨held, present, isOpen⟩ := (owned_replay owned events).1.owns _ still
    rw [found, Option.some.injEq] at present
    exact absurd (present ▸ isOpen) not_open
  · obtain ⟨held, present, isOpen | carries⟩ := judged.record
    · rw [found, Option.some.injEq] at present
      exact absurd (present ▸ isOpen) not_open
    · rw [found, Option.some.injEq] at present
      subst present
      refine ⟨before, event, rest, split, begins, carries, by rw [carries.results], ?_⟩
      intro moves
      rw [verdict_replay_of_moves moves] at carries
      exact carries

/-- A program whose limits take in the sample application. -/
def standardProgram : LenderProgram := ⟨⟨1⟩, ⟨1⟩, "Standard", 10000, 500000, 24, 60⟩

/-- A policy without rules: every applicant scores 100. -/
def standardPolicy (version : UInt32) (minAcceptScore : Binary64) : Policy :=
  ⟨⟨1⟩, version, true, .empty, .empty, ⟨100, minAcceptScore, []⟩⟩

/-- The sample application and one program, whose policy accepts every applicant. -/
def lenient : World :=
  (opened .empty .engine (.ofMilliseconds 2000)).replay
    [.edit (.addLender ⟨⟨1⟩, "Apex Equipment Finance", true⟩), .edit (.addProgram standardProgram),
      .edit (.activatePolicy (standardPolicy 1 60)),
      .edit (.fileApplication Seed.sampleLoan (Seed.application 50000 36 690))]

/-- The next version of the policy accepts nobody. Then the started runs end. -/
def tightening : List Event :=
  [.edit (.activatePolicy (standardPolicy 2 110)), .move .settle .epoch]

private theorem compile_standardPolicy (version : UInt32) {least : Binary64}
    (finite : least.isFinite = true) :
    (standardPolicy version least).compile =
      .ok ⟨⟨1⟩, version, .empty, .empty, ⟨100, least, []⟩⟩ := by
  have base : (100 : Binary64).isFinite = true := by decide +kernel
  simp only [standardPolicy, Policy.compile, RuleTree.empty, RuleTree.compile, RuleTree.compileAll,
    RuleDefinition.compileAll, ScoringConfig.defect?, base, finite, Bool.not_true, Bool.or_self,
    Bool.false_eq_true, ↓reduceIte, List.find?_nil]

private theorem eligible_standardPolicy (version : UInt32) (least : Binary64)
    (application : Application) :
    (CompiledPolicy.evaluate ⟨⟨1⟩, version, .empty, .empty, ⟨100, least, []⟩⟩ standardProgram
      application).eligible = least.atMost (100 : Binary64).clampAtZero := by
  simp only [CompiledPolicy.evaluate, RuleTree.empty, RuleTree.evaluate, RuleTree.evaluateAll,
    List.map_nil, List.flatMap_nil, List.append_nil, ScoringConfig.score, List.foldl_nil,
    ScoringConfig.isEligible, List.all_nil, Bool.true_and]

private theorem accepts_sample : standardProgram.accepts 50000 36 = true := by decide +kernel

/-- A world whose directory has the sample application and the one program under a version of its
policy. -/
structure IsStandard (world : World) (version : UInt32) (least : Binary64) : Prop where
  healthy : world.directoryOutage = .none
  engine : world.evaluator = .engine
  filed : world.catalog.applications.find? Seed.sampleLoan = some (Seed.application 50000 36 690)
  programs : world.catalog.programs = [standardProgram]
  active : world.catalog.hasActiveLender standardProgram = true
  policy : world.catalog.activePolicy? ⟨1⟩ = some (standardPolicy version least)
  finite : least.isFinite = true

namespace IsStandard

variable {version : UInt32} {least : Binary64}

private theorem directory (standard : world.IsStandard version least) :
    (world.surroundings .epoch).directory = world.catalog.directory := by
  rw [surroundings, standard.healthy]
  rfl

private theorem offers (standard : world.IsStandard version least) :
    (world.surroundings .epoch).directory.Offers Seed.sampleLoan
      (Seed.application 50000 36 690) [standardProgram] := by
  have listed : world.catalog.eligiblePrograms 50000 36 = [standardProgram] := by
    simp only [Catalog.eligiblePrograms, standard.programs, List.filter_cons, standard.active,
      accepts_sample, Bool.and_self, ↓reduceIte, List.filter_nil, List.mergeSort_singleton]
  rw [standard.directory]
  exact ⟨congrArg Except.ok standard.filed, congrArg Except.ok listed, standardProgram,
    List.mem_singleton.mpr rfl, accepts_sample⟩

private theorem loadPolicy (standard : world.IsStandard version least) :
    (world.surroundings .epoch).directory.loadPolicy standardProgram.id =
      .ok ⟨⟨1⟩, version, .empty, .empty, ⟨100, least, []⟩⟩ := by
  rw [standard.directory]
  exact Directory.loadPolicy_of_hasPolicy ⟨congrArg Except.ok standard.policy, rfl, rfl,
    compile_standardPolicy version standard.finite⟩

/-- What is determined there is whether the full score meets the policy. -/
private theorem eligible (standard : world.IsStandard version least) :
    (Verdict.results (world.verdict Seed.sampleLoan)).map (·.eligible) =
      [least.atMost (100 : Binary64).clampAtZero] := by
  have accepting : acceptingPrograms [standardProgram] 50000 36 = [standardProgram] := by
    simp only [acceptingPrograms, List.filter_cons, accepts_sample, ↓reduceIte, List.filter_nil,
      List.mergeSort_singleton, firstOfEach]
  have answers : (world.surroundings .epoch).evaluator.AnswersForProgram := by
    rw [surroundings, standard.engine]
    exact Evaluator.isFaithful_engine.answersForProgram
  have determined := Surroundings.results_of_offers answers standard.offers
  rw [judge_surroundings] at determined
  rw [determined]
  change ((acceptingPrograms [standardProgram] 50000 36).map _).map _ = _
  rw [accepting]
  simp only [List.map_cons, List.map_nil, Surroundings.answer, ProgramTask.result,
    standard.loadPolicy]
  rw [surroundings, standard.engine]
  exact congrArg (fun found => [found]) (eligible_standardPolicy version least _)

end IsStandard

/-- A run of the sample application is started and waits for its first step. -/
def lenientStarted : World := lenient.step (.move (.startRun Seed.sampleLoan) .epoch)

/-- The record of that run after the policy was replaced and the run ended. -/
def tightened : MatchRun :=
  (MatchRun.opened ⟨1⟩ Seed.sampleLoan .epoch).concluded
    ((lenientStarted.replay (tightening.take 1)).verdict Seed.sampleLoan) .epoch

private theorem find?_tightened :
    (lenientStarted.replay tightening).service.runs.find? ⟨1⟩ = some tightened := by
  let surroundings := (lenientStarted.replay (tightening.take 1)).surroundings .epoch
  have landed := @Flight.land_of_healthy surroundings lenientStarted.service.runs
    (.opened ⟨1⟩ Seed.sampleLoan .epoch) rfl rfl rfl
  have settled : (lenientStarted.replay tightening).service.runs =
    (Flight.land surroundings ⟨⟨1⟩, Seed.sampleLoan, .opened⟩ lenientStarted.service.runs).2 := rfl
  have filed : (Flight.land surroundings ⟨⟨1⟩, Seed.sampleLoan, .opened⟩
      lenientStarted.service.runs).2 = lenientStarted.service.runs.put ⟨1⟩ tightened :=
    congrArg Prod.snd landed
  rw [settled, filed, Register.find?_put, if_pos rfl]

theorem replay_finishes_by_first_step_tightened :
    ∃ before event rest, tightening = before ++ event :: rest ∧
      lenientStarted.FirstStepIn ⟨1⟩ Seed.sampleLoan before event ∧
      tightened.Carries ((lenientStarted.replay before).verdict Seed.sampleLoan) ∧
      (tightened.results = Verdict.results (lenientStarted.verdict Seed.sampleLoan) ↔
        Verdict.results ((lenientStarted.replay before).verdict Seed.sampleLoan) =
          Verdict.results (lenientStarted.verdict Seed.sampleLoan)) ∧
      ((∀ event ∈ before, ∃ move now, event = .move move now) →
        tightened.Carries (lenientStarted.verdict Seed.sampleLoan)) :=
  @replay_finishes_by_first_step lenient Seed.sampleLoan ⟨_, _, _, _, rfl⟩ .epoch
    (.opened ⟨1⟩ Seed.sampleLoan .epoch) tightened tightening rfl find?_tightened
    (Verdict.isTerminal_status _)

/-- The policy is replaced after the run is started and before its first step, and the run finishes
with results that are not the ones determined when it was started. -/
theorem tightening_changes_results :
    (lenient.service.startRun (lenient.surroundings .epoch) Seed.sampleLoan).1 =
        .ok (.opened ⟨1⟩ Seed.sampleLoan .epoch) ∧
      (lenientStarted.replay tightening).service.runs.find? ⟨1⟩ = some tightened ∧
        tightened.status.isTerminal = true ∧
        tightened.results ≠ Verdict.results (lenientStarted.verdict Seed.sampleLoan) := by
  refine ⟨rfl, find?_tightened, Verdict.isTerminal_status _, ?_⟩
  have before : lenientStarted.IsStandard 1 60 :=
    ⟨rfl, rfl, rfl, rfl, rfl, rfl, by decide +kernel⟩
  have after : (lenientStarted.replay (tightening.take 1)).IsStandard 2 110 :=
    ⟨rfl, rfl, rfl, rfl, rfl, rfl, by decide +kernel⟩
  have differ : (60 : Binary64).atMost (100 : Binary64).clampAtZero ≠
      (110 : Binary64).atMost (100 : Binary64).clampAtZero := by decide +kernel
  have results : tightened.results =
    Verdict.results ((lenientStarted.replay (tightening.take 1)).verdict Seed.sampleLoan) := rfl
  intro same
  have alike := after.eligible
  rw [← results, same, before.eligible] at alike
  exact differ (List.singleton_inj.mp alike)

end World

end Underwriting
