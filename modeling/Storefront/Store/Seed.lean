import Storefront.Store.Column

/-!
The first contents of a store, given as lists of rows. Columns that are left out take their
defaults: an identifier that is left out is the next of its table. Every sequence of integers goes
on after the highest identifier that is there, and that of payments after those it has handed out.
-/

namespace Storefront.Seed

/-- The rows of a table, of which `blank` is the one that takes every default. -/
def rows? {α : Type} [Columned α] (blank : Nat → α) : (next : Nat) → List Json → Option (List α)
  | _, [] => some []
  | next, .object columns :: rest => do
    let given := columns.filter fun column => !(column.2 matches .null)
    let row ← setColumns? (blank next) given
    let isNumbered := given.any fun column => column.1 = "id"
    return row :: (← rows? blank (if isNumbered then next else next + 1) rest)
  | _, _ => none

section Defaults

variable (now : Instant) (id : Nat)

def blankDestination : Destination := ⟨"", "", "", "", "", "India", "", none⟩

def blankProduct : Product := ⟨id, "", 0, true, none, none, none, now, now⟩

def blankPrice : Price := ⟨id, 0, "", 0⟩

def blankAddress : Address := ⟨id, 0, blankDestination, false, now, now⟩

def blankCart : Cart := ⟨id, 0, now, now⟩

def blankCartItem : CartItem := ⟨0, 0, 0, now, now⟩

def blankOrderAddress : OrderAddress := ⟨id, blankDestination, now⟩

def blankOrder : OrderRow := ⟨⟨id, 0, 0, 0, 0, none, none, now, now⟩, "", "", ""⟩

def blankOrderItem : ItemRow := ⟨⟨id, 0, 0, "", "", 0, 0, 0, 0, 0, none, none, now, now⟩, ""⟩

def blankPayment : PaymentRow :=
  ⟨⟨Uuid.numbered id, 0, 0, "INR", none, none, none, now, now⟩, "", ""⟩

end Defaults

/-- The rows given for a table. -/
def given? (seed : Json) (table : TableName) : Option (List Json) :=
  match seed.field? (word table) with
  | none => some []
  | some value => value.array?

def tables? (now : Instant) (seed : Json) : Option Tables := do
  return {
    products := ← rows? (blankProduct now) 1 (← given? seed .products)
    productPrices := ← rows? blankPrice 1 (← given? seed .productPrices)
    addresses := ← rows? (blankAddress now) 1 (← given? seed .addresses)
    carts := ← rows? (blankCart now) 1 (← given? seed .carts)
    cartItems := ← rows? (fun _ => blankCartItem now) 1 (← given? seed .cartItems)
    orderAddresses := ← rows? (blankOrderAddress now) 1 (← given? seed .orderAddresses)
    orders := ← rows? (blankOrder now) 1 (← given? seed .orders)
    orderItems := ← rows? (blankOrderItem now) 1 (← given? seed .orderItems)
    payments := ← rows? (blankPayment now) 1 (← given? seed .payments) }

/-- The sequences that go on after the rows of some tables, where the payments have used up all
numbers below `payment`. -/
def sequencesAfter (t : Tables) (payment : Nat) : Sequences where
  cart := nextAfter (t.carts.map Cart.id)
  orderAddress := nextAfter (t.orderAddresses.map OrderAddress.id)
  order := nextAfter (t.orders.map (·.id))
  orderItem := nextAfter (t.orderItems.map (·.id))
  payment := payment

/-- How many rows leave their identifier to the store. -/
def countUnnumbered (rows : List Json) : Nat :=
  (rows.filter fun row => (row.field? "id").isNone).length

/-- A store that holds the rows of a seed. -/
def store? (now : Instant) (seed : Json) : Option Store := do
  let tables ← tables? now seed
  let unnumbered := countUnnumbered (← given? seed .payments)
  return ⟨tables, sequencesAfter tables (unnumbered + 1)⟩

end Storefront.Seed
