import Storefront.Http.Service
import Storefront.Store.Seed

/-!
Runs of the service: steps taken one after the other on one store. A step performs an operation,
serves a request, or edits the store itself.
-/

namespace Storefront

inductive Action where
  | call (operation : Operation)
  | request (request : Http.Request)
  | edit (edit : Edit)

/-- One step, with the times that clocks show during it and the fault that it meets, if any. -/
structure Step where
  clock : Clock
  fault : Option Fault
  action : Action

inductive Answer where
  | reply (outcome : Except Error Reply)
  | response (response : Http.Response)
  /-- Whether the edit could be made. -/
  | edited (done : Bool)

/-- What comes of a step. -/
structure Outcome where
  answer : Answer
  events : List Event
  store : Store
  /-- Whether a stock was put back that does not fit its column. -/
  overflowed : Bool

/-- Runs one session on a store. -/
def Session.runOn {α : Type} (session : Session α) (currency : String) (clock : Clock)
    (fault : Option Fault) (store : Store) : Except Error α × Progress :=
  session.exec ⟨clock, currency⟩ ⟨store.tables, store.sequences, fault, [], false⟩

/-- The store that a session leaves behind. -/
def Progress.store (p : Progress) : Store := ⟨p.tables, p.sequences⟩

def Step.run (currency : String) (step : Step) (store : Store) : Outcome :=
  match step.action with
  | .call operation =>
    let (outcome, after) := operation.perform.runOn currency step.clock step.fault store
    ⟨.reply outcome, after.events, after.store, after.overflowed⟩
  | .request request =>
    let (outcome, after) := (Http.serve request).runOn currency step.clock step.fault store
    let response := match outcome with
      | .ok response => response
      | .error cause => .failure cause
    ⟨.response response, after.events, after.store, after.overflowed⟩
  | .edit edit =>
    match store.tables.edit? edit with
    | none => ⟨.edited false, [], store, false⟩
    | some tables => ⟨.edited true, [], { store with tables }, false⟩

/-- What comes of each step of a run. -/
def run (currency : String) : List Step → Store → List Outcome
  | [], _ => []
  | step :: rest, store =>
    let outcome := step.run currency store
    outcome :: run currency rest outcome.store

/-- The store after a run. -/
def storeAfter (currency : String) (steps : List Step) (store : Store) : Store :=
  steps.foldl (fun store step => (step.run currency store).store) store

end Storefront
