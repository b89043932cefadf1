import Storefront.Store.Session

/-!
Statements on one table. Reading a table, adding rows, changing rows and removing rows are each one
statement; nothing changes when it fails.
-/

namespace Storefront

/-- A table of the store, with rows of type `α`. -/
structure Table (α : Type) where
  name : TableName
  rows : Tables → List α
  withRows : List α → Tables → Tables
  rows_withRows : ∀ xs t, rows (withRows xs t) = xs := by intros; rfl

namespace Table

variable {α : Type}

def products : Table Product where
  name := .products
  rows := (·.products)
  withRows xs t := { t with products := xs }

def productPrices : Table Price where
  name := .productPrices
  rows := (·.productPrices)
  withRows xs t := { t with productPrices := xs }

def addresses : Table Address where
  name := .addresses
  rows := (·.addresses)
  withRows xs t := { t with addresses := xs }

def carts : Table Cart where
  name := .carts
  rows := (·.carts)
  withRows xs t := { t with carts := xs }

def cartItems : Table CartItem where
  name := .cartItems
  rows := (·.cartItems)
  withRows xs t := { t with cartItems := xs }

def orderAddresses : Table OrderAddress where
  name := .orderAddresses
  rows := (·.orderAddresses)
  withRows xs t := { t with orderAddresses := xs }

def orders : Table OrderRow where
  name := .orders
  rows := (·.orders)
  withRows xs t := { t with orders := xs }

def orderItems : Table ItemRow where
  name := .orderItems
  rows := (·.orderItems)
  withRows xs t := { t with orderItems := xs }

def payments : Table PaymentRow where
  name := .payments
  rows := (·.payments)
  withRows xs t := { t with payments := xs }

/-- Puts the result of `f` in the place of the rows. -/
def modifyRows (table : Table α) (f : List α → List α) (t : Tables) : Tables :=
  table.withRows (f (table.rows t)) t

/-- The rows that satisfy `p`. -/
def select (table : Table α) (p : α → Bool) : Session (List α) := do
  Session.statement .select table.name
  return (table.rows (← Session.tables)).filter p

/-- The first row that satisfies `p`. -/
def selectFirst (table : Table α) (p : α → Bool) : Session (Option α) := do
  Session.statement .select table.name
  return (table.rows (← Session.tables)).find? p

/-- Adds rows that the store admits; their identifiers are taken only then. -/
def insert (table : Table α) (admitted : Tables → Bool) (rows : List α)
    (take : Sequences → Sequences) : Session Unit := do
  Session.statement .insert table.name
  Session.constraint (admitted (← Session.tables))
  Session.modifySequences take
  Session.modifyTables (table.modifyRows (· ++ rows))

/-- Changes by `f` the row that satisfies `p`, if the store admits the result. -/
def update (table : Table α) (p : α → Bool) (f : α → α) (admitted : Tables → α → Bool) :
    Session α := do
  Session.statement .update table.name
  let tables ← Session.tables
  let row ← Session.found .notFound ((table.rows tables).find? p)
  Session.constraint (admitted tables (f row))
  Session.modifyTables (table.modifyRows (updateWhere p f))
  return f row

/-- Removes the rows that satisfy `p`. -/
def delete (table : Table α) (p : α → Bool) : Session Unit := do
  Session.statement .delete table.name
  Session.modifyTables (table.modifyRows (·.filter fun row => !p row))

end Table

namespace Session

variable {α ρ : Type}

/-- What a row found stands for. A row that stands for nothing is an error. -/
def readFound (read? : ρ → Option α) : Option ρ → Session (Option α)
  | none => pure none
  | some row => some <$> found .internal (read? row)

/-- What rows stand for. One that stands for nothing is an error. -/
def readRows (read? : ρ → Option α) (rows : List ρ) : Session (List α) :=
  found .internal (rows.mapM read?)

end Session
end Storefront
