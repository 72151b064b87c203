import Underwriting.Directory.Catalog
import Underwriting.Service.Basic

/-! # Histories of a service

A service works on a catalog that is edited while runs are on their course, and look-ups, the store
and the evaluator fail and recover. A history is a list of events in the order in which they happen:
any edit, any change of the failures in force or of the evaluator, and any move of the service. The
course of a started run is taken step by step, so the steps of several runs interleave as they like;
a run that is opened and evaluated at once while others go on is a started run whose steps are taken
one by one.
-/

namespace Underwriting

/-- A change to the catalog. -/
inductive CatalogEdit
  | addLender (lender : Lender)
  | addProgram (program : LenderProgram)
  | activatePolicy (policy : Policy)
  | fileApplication (loan : LoanId) (application : Application)

/-- The catalog after a change. -/
def Catalog.edit (catalog : Catalog) : CatalogEdit → Catalog
  | .addLender lender => catalog.addLender lender
  | .addProgram program => catalog.addProgram program
  | .activatePolicy policy => catalog.activatePolicy policy
  | .fileApplication loan application => catalog.fileApplication loan application

/-- What a service can be made to do. -/
inductive ServiceMove
  | startRun (loan : LoanId)
  | advance (place : Nat)
  | settle
  | runMatch (loan : LoanId)
  | getRun (id : RunId)

namespace Service

/-- Lets the started run at a place take one step. -/
def advance (service : Service) (surroundings : Surroundings) (place : Nat) : Service :=
  match service.flights[place]? with
  | none => service
  | some flight =>
    { service with
      runs := (flight.step surroundings service.runs).2
      flights := service.flights.set place (flight.step surroundings service.runs).1 }

/-- The service after a move. -/
def move (service : Service) (surroundings : Surroundings) : ServiceMove → Service
  | .startRun loan => (service.startRun surroundings loan).2
  | .advance place => service.advance surroundings place
  | .settle => service.settle surroundings
  | .runMatch loan => (service.runMatch surroundings loan).2
  | .getRun _ => service

/-- The run that a move opens, if it opens one. -/
def opens? (service : Service) (surroundings : Surroundings) : ServiceMove → Option RunId
  | .startRun loan | .runMatch loan =>
    (service.openRun surroundings loan).1.toOption.map (·.id)
  | .advance _ | .settle | .getRun _ => none

end Service

/-- A service at work, with the failures in force. -/
structure World where
  service : Service
  catalog : Catalog
  directoryOutage : DirectoryOutage
  storeOutage : StoreOutage
  evaluator : Evaluator
  budget : Duration

/-- What happens to a service at work. -/
inductive Event
  | edit (edit : CatalogEdit)
  | directoryOutage (outage : DirectoryOutage)
  | storeOutage (outage : StoreOutage)
  | evaluator (evaluator : Evaluator)
  | move (move : ServiceMove) (now : Timestamp)

namespace World

/-- A new service on a catalog, without failures. -/
def opened (catalog : Catalog) (evaluator : Evaluator) (budget : Duration) : World :=
  ⟨.new, catalog, .none, .none, evaluator, budget⟩

/-- What runs work with at an instant. -/
def surroundings (world : World) (now : Timestamp) : Surroundings where
  directory := world.directoryOutage.afflict world.catalog.directory
  outage := world.storeOutage
  evaluator := world.evaluator
  budget := world.budget
  now := now

/-- The verdict on an application by what the directory says now. -/
def verdict (world : World) (loan : LoanId) : Except PreconditionError (List MatchResult) :=
  (world.surroundings .epoch).judge loan

/-- The world after an event. -/
def step (world : World) : Event → World
  | .edit edit => { world with catalog := world.catalog.edit edit }
  | .directoryOutage outage => { world with directoryOutage := outage }
  | .storeOutage outage => { world with storeOutage := outage }
  | .evaluator evaluator => { world with evaluator := evaluator }
  | .move move now => { world with service := world.service.move (world.surroundings now) move }

/-- The world after events in their order. -/
def replay (world : World) (events : List Event) : World := events.foldl step world

/-- The run that an event opens, if it opens one. -/
def opens? (world : World) : Event → Option RunId
  | .move move now => world.service.opens? (world.surroundings now) move
  | .edit _ | .directoryOutage _ | .storeOutage _ | .evaluator _ => none

/-- The runs that events open, the earliest first. -/
def openedRuns (world : World) : List Event → List RunId
  | [] => []
  | event :: rest => (world.opens? event).toList ++ (world.step event).openedRuns rest

/-- The verdict does not hang on the instant at which it is given. -/
theorem judge_surroundings (world : World) (now : Timestamp) (loan : LoanId) :
    (world.surroundings now).judge loan = world.verdict loan := rfl

end World

end Underwriting
