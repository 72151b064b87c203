import Underwriting.Directory.Seed
import Underwriting.Http.Api
import Underwriting.Proofs.Http.Address
import Underwriting.Proofs.Service.Failure

/-! # The HTTP interface shows the service

Over HTTP a service can be made to start runs and to tell how they stand, and nothing else. Requests
come between the moves of the service and the changes around it. A request that starts a run does to
the service what starting the run does, every other request leaves the service as it is, and the
status of a response tells what the service found. So what holds of histories of the service holds
of conversations with it.
-/

namespace Underwriting

/-- What a service at work meets: something that happens to it, or a request over HTTP. -/
inductive Exchange
  | happens (event : Event)
  | asks (request : HttpRequest) (isReady : Bool) (now : Timestamp)

/-- What an exchange makes of the service, if anything: an event is what it is, and a request is at
most the start of a run. -/
def Exchange.event? : Exchange → Option Event
  | .happens event => some event
  | .asks request _ now => request.startsFor?.map fun loan => .move (.startRun loan) now

/-- The member of a name in the document of a response. -/
def HttpResponse.member? (response : HttpResponse) (name : String) : Option Json :=
  response.body?.bind (·.member? name)

namespace Service

variable {service : Service} {surroundings : Surroundings} {isReady : Bool} {request : HttpRequest}
  {loan : LoanId} {id : RunId}

theorem answer_of_route {route : Route} (taken : request.route? = some route) :
    service.answer surroundings isReady request =
      service.answerRoute surroundings isReady request route := by
  obtain ⟨found, method⟩ := HttpRequest.route?_eq_some_iff.mp taken
  simp only [answer, found, method, ↓reduceIte]

/-- What is answered on another route than that of the start of a run changes nothing. -/
theorem answerRoute_snd {route : Route} (other : ∀ number, route ≠ .startRun number) :
    (service.answerRoute surroundings isReady request route).2 = service := by
  cases route with
  | startRun number => exact absurd rfl (other number)
  | _ => rfl

/-- A request that starts no run leaves the service as it is. -/
theorem answer_of_startsFor?_eq_none (starts : request.startsFor? = none) :
    (service.answer surroundings isReady request).2 = service := by
  unfold answer
  split
  · rfl
  · rename_i route found
    split
    · rename_i method
      have taken := HttpRequest.route?_eq_some_iff.mpr ⟨found, method⟩
      cases route with
      | startRun number =>
        simp only [HttpRequest.startsFor?, taken, Option.map_eq_none_iff] at starts
        simp only [answerRoute, answerStart, starts]
      | _ => rfl
    · split
      · rename_i head
        refine answerRoute_snd ?_
        rintro number rfl
        exact absurd head.2 (by simp [Route.method])
      · rfl

/-- A request that starts a run does to the service what starting the run does. -/
theorem answer_of_startsFor (starts : request.startsFor? = some loan) :
    (service.answer surroundings isReady request).2 = (service.startRun surroundings loan).2 := by
  obtain ⟨number, taken, named⟩ := HttpRequest.startsFor?_eq_some_iff.mp starts
  simp only [answer_of_route taken, answerRoute, answerStart, named]
  split
  all_goals rename_i started; rw [started]

end Service

/-- A response tells how the start of a run for an application went: it was accepted, and this is
the run as it was opened; or its number was taken; or it failed otherwise. -/
structure HttpResponse.ReportsStart (response : HttpResponse) (loan : LoanId)
    (inserted : Except RecordError RunStore) (started : Except ServiceError MatchRun) : Prop where
  run : ∀ run, started = .ok run →
    run.IsOpen ∧ run.loan = loan ∧ response = .json 202 (run.encode .plain)
  accepts : response.status = 202 ↔ ∃ run, started = .ok run
  conflicts : response.status = 409 ↔ inserted = .error .conflict
  fails : response.status ≠ 202 → response.status ≠ 409 → response.status = 500

/-- A response tells what the look-up of a run came to: this is the record; or there is none under
the number; or the look-up failed otherwise. -/
structure HttpResponse.ReportsRun (response : HttpResponse) (id : RunId)
    (fetched : Except RecordError (Option MatchRun)) : Prop where
  record : ∀ run, fetched = .ok (some run) → response = .json 200 (run.encode .plain)
  finds : response.status = 200 ↔ ∃ run, fetched = .ok (some run)
  misses : response.status = 404 ↔ fetched = .ok none ∨ fetched = .error .notFound
  number : response.status = 404 → response.member? "run_id" = some id.encode
  fails : response.status ≠ 200 → response.status ≠ 404 → response.status = 500

/-- The document of a response is that of a run that has ended. -/
def HttpResponse.IsSettled (response : HttpResponse) : Prop :=
  response.member? "status" = some (.string "COMPLETE") ∨
    response.member? "status" = some (.string "FAILED")

theorem MatchRun.isTerminal_of_isSettled {run : MatchRun}
    (settled : (HttpResponse.json 200 (run.encode .plain)).IsSettled) :
    run.status.isTerminal = true := by
  have shown : (HttpResponse.json 200 (run.encode .plain)).member? "status" =
      some (.string run.status.label) := rfl
  rw [HttpResponse.IsSettled, shown] at settled
  cases status : run.status with
  | running =>
    rw [status] at settled
    simp [RunStatus.label] at settled
  | complete => rfl
  | failed => rfl

namespace Service

variable {service : Service} {surroundings : Surroundings} {isReady : Bool} {request : HttpRequest}
  {loan : LoanId} {id : RunId}

theorem reportsStart_answer (starts : request.startsFor? = some loan) :
    (service.answer surroundings isReady request).1.ReportsStart loan
      (service.runs.insert surroundings.outage (service.nextOpened surroundings loan))
      (service.startRun surroundings loan).1 := by
  obtain ⟨number, taken, named⟩ := HttpRequest.startsFor?_eq_some_iff.mp starts
  simp only [answer_of_route taken, answerRoute, answerStart, named]
  cases inserted : service.runs.insert surroundings.outage
      (service.nextOpened surroundings loan) with
  | ok runs =>
    have isOpen := MatchRun.isOpen_opened ⟨service.nextRun⟩ loan surroundings.now
    rw [startRun_of_filed inserted]
    constructor
    · intro run started
      rw [← Except.ok.inj started]
      exact ⟨isOpen, rfl, rfl⟩
    all_goals simp [HttpResponse.json]
  | error cause =>
    rw [startRun_of_refused inserted]
    cases cause with
    | conflict => constructor <;> simp [HttpResponse.failure, HttpResponse.json]
    | notFound => constructor <;> simp [HttpResponse.failure, HttpResponse.json]
    | unavailable => constructor <;> simp [HttpResponse.failure, HttpResponse.json]

theorem reportsRun_answer (asks : request.asksFor? = some id) :
    (service.answer surroundings isReady request).1.ReportsRun id
      (service.runs.fetch surroundings.outage id) := by
  obtain ⟨number, taken, named⟩ := HttpRequest.asksFor?_eq_some_iff.mp asks
  simp only [answer_of_route taken, answerRoute, answerStatus, named, getRun]
  cases service.runs.fetch surroundings.outage id with
  | ok found =>
    cases found with
    | some run => constructor <;> simp [HttpResponse.json]
    | none => constructor <;> simp [HttpResponse.json, HttpResponse.member?, Json.member?]
  | error cause =>
    cases cause with
    | notFound => constructor <;> simp [HttpResponse.json, HttpResponse.member?, Json.member?]
    | conflict => constructor <;> simp [HttpResponse.failure, HttpResponse.json]
    | unavailable => constructor <;> simp [HttpResponse.failure, HttpResponse.json]

end Service

namespace World

variable {world : World} {request : HttpRequest} {isReady : Bool} {now : Timestamp} {id : RunId}

/-- The response to a request. -/
def respond (world : World) (request : HttpRequest) (isReady : Bool) (now : Timestamp) :
    HttpResponse :=
  (world.service.answer (world.surroundings now) isReady request).1

/-- The world after an exchange. -/
def exchange (world : World) : Exchange → World
  | .happens event => world.step event
  | .asks request isReady now =>
    { world with service := (world.service.answer (world.surroundings now) isReady request).2 }

/-- The world after exchanges in their order. -/
def converse (world : World) (traffic : List Exchange) : World := traffic.foldl exchange world

theorem exchange_of_startsFor {loan : LoanId} (starts : request.startsFor? = some loan) :
    world.exchange (.asks request isReady now) = world.step (.move (.startRun loan) now) := by
  rw [exchange, Service.answer_of_startsFor starts]
  rfl

theorem exchange_of_startsFor?_eq_none (starts : request.startsFor? = none) :
    world.exchange (.asks request isReady now) = world := by
  rw [exchange, Service.answer_of_startsFor?_eq_none starts]

/-- An exchange is the event that it amounts to, or nothing. -/
theorem exchange_eq (world : World) (exchange : Exchange) :
    world.exchange exchange = exchange.event?.elim world world.step := by
  cases exchange with
  | happens event => rfl
  | asks request isReady now =>
    rw [Exchange.event?]
    cases starts : request.startsFor? with
    | none => exact exchange_of_startsFor?_eq_none starts
    | some loan => exact exchange_of_startsFor starts

/-- A conversation is the history of the events that its exchanges amount to. -/
theorem converse_eq_replay (world : World) (traffic : List Exchange) :
    world.converse traffic = world.replay (traffic.filterMap Exchange.event?) := by
  induction traffic generalizing world with
  | nil => rfl
  | cons exchange rest ih =>
    rw [converse, List.foldl_cons, ← converse, ih, exchange_eq]
    cases amounts : exchange.event? with
    | none => rw [List.filterMap_cons_none amounts]; rfl
    | some event => rw [List.filterMap_cons_some amounts]; rfl

/-- While the store does not lose it, a stored run is shown as it is. -/
theorem respond_of_found {run : MatchRun} (found : world.service.runs.find? id = some run)
    (kept : world.storeOutage.loses? = none) (asks : request.asksFor? = some id) :
    world.respond request isReady now = .json 200 (run.encode .plain) := by
  obtain ⟨fetches, finds⟩ := StoreOutage.loses?_eq_none_iff.mp kept
  exact (Service.reportsRun_answer asks).record run
    (RunStore.fetch_eq_some_iff.mpr ⟨fetches, finds, found⟩)

/-- Conversations leave the records in the hands of their runs. -/
theorem owned_converse (owned : world.service.Owned) (traffic : List Exchange) :
    (world.converse traffic).service.Owned ∧
      world.service.runs.Evolves (world.converse traffic).service.runs := by
  rw [converse_eq_replay]
  exact owned_replay owned _

/-- From now on whoever asks for a run is shown it, for the application, whenever the store does not
lose it; and once it is shown as complete or failed, the response stays the same. -/
structure KeepsShowing (world : World) (id : RunId) (loan : LoanId) : Prop where
  shows : ∀ later, let shown := world.converse later
    shown.storeOutage.loses? = none → ∀ request isReady now, request.asksFor? = some id →
      (shown.respond request isReady now).status = 200 ∧
        (shown.respond request isReady now).member? "loan_request_id" = some loan.encode
  settles : ∀ later, let shown := world.converse later
    shown.storeOutage.loses? = none → ∀ request isReady now, request.asksFor? = some id →
      (shown.respond request isReady now).IsSettled →
      ∀ last, let ended := shown.converse last
        ended.storeOutage.loses? = none → ∀ again isReady' now', again.asksFor? = some id →
          ended.respond again isReady' now' = shown.respond request isReady now

/-- A stored run is shown from now on. -/
theorem keepsShowing_of_found {run : MatchRun} (owned : world.service.Owned)
    (found : world.service.runs.find? id = some run) : world.KeepsShowing id run.loan := by
  constructor
  · intro later shown kept request isReady now asks
    obtain ⟨-, evolves⟩ := owned_converse owned later
    obtain ⟨record, stored, same⟩ := evolves id run found
    rw [respond_of_found stored kept asks]
    exact ⟨rfl, by rw [← same.loan]; rfl⟩
  · intro later shown kept request isReady now asks settled last ended stays again _ _ also
    obtain ⟨ownedThen, evolves⟩ := owned_converse owned later
    obtain ⟨record, stored, -⟩ := evolves id run found
    obtain ⟨-, changes⟩ := owned_converse ownedThen last
    obtain ⟨next, storedStill, same⟩ := changes id record stored
    rw [respond_of_found stored kept asks] at settled ⊢
    have frozen : next = record := same.frozen (MatchRun.isTerminal_of_isSettled settled)
    rw [respond_of_found storedStill stays also, frozen]

/-- A run that was not accepted is not stored. -/
theorem runs_of_not_accepted {loan : LoanId} (starts : request.startsFor? = some loan)
    (refused : (world.respond request isReady now).status ≠ 202) :
    (world.exchange (.asks request isReady now)).service.runs = world.service.runs := by
  have reports := @Service.reportsStart_answer world.service (world.surroundings now) isReady _ _
    starts
  rw [exchange_of_startsFor starts]
  cases inserted : world.service.runs.insert (world.surroundings now).outage
      (world.service.nextOpened (world.surroundings now) loan) with
  | ok runs =>
    have started := Service.startRun_of_filed inserted
    exact absurd (reports.accepts.mpr ⟨_, congrArg Prod.fst started⟩) refused
  | error cause => simp only [step, Service.move, Service.startRun_of_refused inserted]

/-- A run that was accepted is shown from then on. -/
theorem keepsShowing_of_accepted {loan : LoanId} (owned : world.service.Owned)
    (starts : request.startsFor? = some loan)
    (accepted : (world.respond request isReady now).status = 202)
    (named : (world.respond request isReady now).member? "id" = some (RunId.encode id)) :
    (world.exchange (.asks request isReady now)).KeepsShowing id loan := by
  have reports := @Service.reportsStart_answer world.service (world.surroundings now) isReady _ _
    starts
  cases inserted : world.service.runs.insert (world.surroundings now).outage
      (world.service.nextOpened (world.surroundings now) loan) with
  | ok runs =>
    have started := Service.startRun_of_filed inserted
    obtain ⟨-, -, shown⟩ := reports.run _ (congrArg Prod.fst started)
    change world.respond request isReady now = _ at shown
    rw [shown] at named
    have own : ⟨world.service.nextRun⟩ = id := RunId.eq_of_encode_eq (Option.some.inj named)
    have ownedThen := (owned_step owned (.move (.startRun loan) now)).1
    have found : (world.step (.move (.startRun loan) now)).service.runs.find? id =
        some (world.service.nextOpened (world.surroundings now) loan) := by
      simp only [step, Service.move, started, ← own, Service.find?_withOpened]
    rw [exchange_of_startsFor starts]
    exact keepsShowing_of_found ownedThen found
  | error cause =>
    obtain ⟨run, started⟩ := reports.accepts.mp accepted
    rw [Service.startRun_of_refused inserted] at started
    cases started

/-- Over HTTP a service shows what it does and what it holds. A conversation comes to what the moves
of the service come to that it amounts to. A request to start a run does what starting it does, and
the response tells how it went; only a run that was accepted is stored, and from then on it is
shown, until it has ended and after that unchanged. A request for the status of a run tells what
the look-up came to. Neither that nor the check of a policy changes anything. -/
theorem converse_mirrors_service (catalog : Catalog) (evaluator : Evaluator) (budget : Duration)
    (traffic : List Exchange) :
    let start := opened catalog evaluator budget
    let reached := start.converse traffic
    reached = start.replay (traffic.filterMap Exchange.event?) ∧
      ∀ request isReady now,
        let service := reached.service
        let surroundings := reached.surroundings now
        let response := reached.respond request isReady now
        let after := reached.exchange (.asks request isReady now)
        (∀ loan, request.startsFor? = some loan →
          after = reached.step (.move (.startRun loan) now) ∧
            response.ReportsStart loan
              (service.runs.insert surroundings.outage (service.nextOpened surroundings loan))
              (service.startRun surroundings loan).1 ∧
            (response.status ≠ 202 → after.service.runs = service.runs) ∧
            ∀ id, response.status = 202 → response.member? "id" = some (RunId.encode id) →
              after.KeepsShowing id loan) ∧
          (∀ id, request.asksFor? = some id →
            after = reached ∧ response.ReportsRun id (service.runs.fetch surroundings.outage id)) ∧
          (request.method = "GET" ∨ Route.find? request.segments = some .validatePolicy ∨
            request.startsFor? = none → after = reached) := by
  intro start reached
  refine ⟨start.converse_eq_replay traffic, ?_⟩
  intro request isReady now service surroundings response after
  have owned : reached.service.Owned :=
    (@owned_converse start Service.owned_new traffic).1
  refine ⟨?_, ?_, ?_⟩
  · intro loan starts
    exact ⟨exchange_of_startsFor starts, Service.reportsStart_answer starts,
      runs_of_not_accepted starts, fun id => keepsShowing_of_accepted owned starts⟩
  · intro id asks
    exact ⟨exchange_of_startsFor?_eq_none (HttpRequest.startsFor?_of_asksFor asks),
      Service.reportsRun_answer asks⟩
  · rintro (method | route | starts)
    · refine exchange_of_startsFor?_eq_none (HttpRequest.startsFor?_eq_none ?_)
      intro number taken
      rw [(HttpRequest.route?_eq_some_iff.mp taken).2] at method
      exact absurd method (by simp [Route.method])
    · refine exchange_of_startsFor?_eq_none (HttpRequest.startsFor?_eq_none ?_)
      intro number taken
      rw [(HttpRequest.route?_eq_some_iff.mp taken).1] at route
      cases route
    · exact exchange_of_startsFor?_eq_none starts

/-- On a new service the sample application is accepted as the first run, which is shown from then
on. -/
theorem converse_mirrors_service_sample :
    let start := opened Seed.catalog .engine (.ofMilliseconds 2000)
    let request := Seed.sampleLoan.startRequest
    (start.respond request true .epoch).status = 202 ∧
      (start.exchange (.asks request true .epoch)).KeepsShowing ⟨1⟩ Seed.sampleLoan ∧
      ∀ later, let shown := (start.exchange (.asks request true .epoch)).converse later
        shown.storeOutage.loses? = none →
          (shown.respond (RunId.statusRequest ⟨1⟩) true .epoch).status = 200 := by
  intro start request
  obtain ⟨-, each⟩ := converse_mirrors_service Seed.catalog .engine (.ofMilliseconds 2000) []
  obtain ⟨starts, -, -⟩ := each request true .epoch
  obtain ⟨-, reports, -, keeps⟩ := starts _ Seed.sampleLoan.startsFor?_startRequest
  obtain ⟨-, -, accepted⟩ := reports.run (.opened ⟨1⟩ Seed.sampleLoan .epoch) rfl
  change start.respond request true .epoch = _ at accepted
  have shows := keeps ⟨1⟩ (congrArg HttpResponse.status accepted)
    (congrArg (fun response => HttpResponse.member? response "id") accepted)
  refine ⟨congrArg HttpResponse.status accepted, shows, ?_⟩
  intro later shown kept
  exact (shows.shows later kept _ true .epoch (RunId.asksFor?_statusRequest ⟨1⟩)).1

end World

end Underwriting
