import Storefront.Event
import Storefront.Store.Tables
import Storefront.Text.Digits

/-!
Sessions with the store. A session runs statements, announces events and may end in an error. What
it has done so far stays done, except that a transaction that ends in an error takes back its
changes to the tables; identifiers once taken are never given back.

A session may be given a fault, which makes one of its statements fail.
-/

namespace Storefront

inductive Verb where
  | select
  | insert
  | update
  | delete
  deriving DecidableEq, Repr

instance : Worded Verb where
  kind := "Verb"
  all := [.select, .insert, .update, .delete]
  word
    | .select => "SELECT"
    | .insert => "INSERT"
    | .update => "UPDATE"
    | .delete => "DELETE"

/-- The `nth` statement, counted from 1, of one kind on one table fails. -/
structure Fault where
  verb : Verb
  table : TableName
  nth : Nat
  deriving DecidableEq, Repr

/-- The times that clocks show during a session: the store's, which stamps rows, and that of the
service itself. -/
structure Clock where
  store : Instant
  wall : Instant
  deriving DecidableEq, Repr

/-- What stays the same during a session. -/
structure Context where
  clock : Clock
  currency : String
  deriving DecidableEq, Repr

/-- What changes during a session: the store, the fault that is still to come, the events announced
so far and whether a sum of stock was ever too large for its column. -/
structure Progress where
  tables : Tables
  sequences : Sequences
  fault : Option Fault
  events : List Event
  overflowed : Bool
  deriving DecidableEq, Repr

abbrev Session := ReaderT Context (ExceptT Error (StateM Progress))

namespace Session

variable {α : Type}

/-- The outcome of a session and the progress it made. -/
def exec (session : Session α) (context : Context) (progress : Progress) :
    Except Error α × Progress :=
  session context progress

def tables : Session Tables := do
  return (← get).tables

def modifyTables (f : Tables → Tables) : Session Unit :=
  modify fun p => { p with tables := f p.tables }

def sequences : Session Sequences := do
  return (← get).sequences

def modifySequences (f : Sequences → Sequences) : Session Unit :=
  modify fun p => { p with sequences := f p.sequences }

def storeTime : Session Instant := do
  return (← read).clock.store

def wallTime : Session Instant := do
  return (← read).clock.wall

def announce (event : Event) : Session Unit :=
  modify fun p => { p with events := p.events ++ [event] }

def ofExcept : Except Error α → Session α
  | .ok a => pure a
  | .error e => throw e

/-- The value that a look-up found; nothing found is the given error. -/
def found (cause : Error) : Option α → Session α
  | some a => pure a
  | none => throw cause

/-- Goes on only if a condition holds. -/
def require (holds : Bool) (cause : Error) : Session Unit :=
  if holds then pure () else throw cause

/-- A condition of the store that a statement has to meet. -/
def constraint (holds : Bool) : Session Unit :=
  require holds .internal

/-- Keeps a record of a stock that does not fit its column of 32 bits. The sum is kept here as it
was computed, but the service stores no such sum: the addition ends the call, or wraps around to a
negative stock, which the table refuses. Either way the transaction changes nothing. -/
def recordStock (stock : Int) : Session Unit :=
  modify fun p => { p with overflowed := p.overflowed || !Text.fitsSigned 32 stock }

/-- Sends one statement. It fails if it is the one that the fault is about. -/
def statement (verb : Verb) (table : TableName) : Session Unit := do
  match (← get).fault with
  | none => pure ()
  | some fault =>
    if fault.verb = verb ∧ fault.table = table then
      if fault.nth = 1 then
        modify fun p => { p with fault := none }
        throw .internal
      else
        modify fun p => { p with fault := some { fault with nth := fault.nth - 1 } }

/-- Runs a session of which an error leaves no change in the tables. -/
def transaction (body : Session α) : Session α := fun context progress =>
  match body context progress with
  | (.ok a, after) => (.ok a, after)
  | (.error e, after) => (.error e, { after with tables := progress.tables })

/-- Runs a session whose error becomes part of its result. -/
def attempt (body : Session α) : Session (Except Error α) := fun context progress =>
  let (outcome, after) := body context progress
  (.ok outcome, after)

@[simp] theorem exec_pure (a : α) (context : Context) (progress : Progress) :
    (pure a : Session α).exec context progress = (.ok a, progress) := rfl

@[simp] theorem exec_throw (e : Error) (context : Context) (progress : Progress) :
    (throw e : Session α).exec context progress = (.error e, progress) := rfl

/-- A session goes on from where the one before it stopped, unless that ended in an error. -/
theorem exec_bind {β : Type} (first : Session α) (next : α → Session β) (context : Context)
    (progress : Progress) :
    (first >>= next).exec context progress =
      match first.exec context progress with
      | (.ok a, after) => (next a).exec context after
      | (.error e, after) => (.error e, after) := by
  simp only [exec, bind, ReaderT.bind, ExceptT.bind, ExceptT.mk, StateT.bind, ExceptT.bindCont]
  rcases first context progress with ⟨_ | _, _⟩ <;> rfl

theorem exec_map {β : Type} (f : α → β) (session : Session α) (context : Context)
    (progress : Progress) :
    (f <$> session).exec context progress =
      match session.exec context progress with
      | (.ok a, after) => (.ok (f a), after)
      | (.error e, after) => (.error e, after) := by
  rw [map_eq_pure_bind, exec_bind]
  rfl

theorem exec_transaction (body : Session α) (context : Context) (progress : Progress) :
    (transaction body).exec context progress =
      match body.exec context progress with
      | (.ok a, after) => (.ok a, after)
      | (.error e, after) => (.error e, { after with tables := progress.tables }) := rfl

@[simp] theorem exec_attempt (body : Session α) (context : Context) (progress : Progress) :
    (attempt body).exec context progress =
      (.ok (body.exec context progress).1, (body.exec context progress).2) := rfl

end Session
end Storefront
