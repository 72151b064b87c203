import Underwriting.RecordError
import Underwriting.Register
import Underwriting.Run.Basic

/-!
# The run store

Runs held in memory under their numbers. A run is inserted once and can be replaced afterwards.
Each of the three operations may be made to fail.
-/

namespace Underwriting

/-- The stored runs. -/
abbrev RunStore := Register RunId MatchRun

/-- Operations that fail. A fetch may also be made to find nothing. -/
structure StoreOutage where
  insert? : Option RecordError
  update? : Option RecordError
  fetch? : Option RecordError
  fetchMissing : Bool

/-- All operations work. -/
def StoreOutage.none : StoreOutage := ⟨.none, .none, .none, false⟩

namespace RunStore

/-- Adds a run; its number must be new. -/
def insert (store : RunStore) (outage : StoreOutage) (run : MatchRun) :
    Except RecordError RunStore :=
  match outage.insert? with
  | some error => .error error
  | none => match store.find? run.id with
    | some _ => .error .conflict
    | none => .ok (store.put run.id run)

/-- Replaces a run; its number must be there. -/
def update (store : RunStore) (outage : StoreOutage) (run : MatchRun) :
    Except RecordError RunStore :=
  match outage.update? with
  | some error => .error error
  | none => match store.find? run.id with
    | some _ => .ok (store.put run.id run)
    | none => .error .notFound

/-- Looks a run up. -/
def fetch (store : RunStore) (outage : StoreOutage) (id : RunId) :
    Except RecordError (Option MatchRun) :=
  match outage.fetch? with
  | some error => .error error
  | none => .ok (if outage.fetchMissing then none else store.find? id)

end RunStore

end Underwriting
