import Storefront.Store.Table

/-!
Payments in the store. No two payments share an order or a gateway reference. A statement that
returns a row which stands for no payment fails.
-/

namespace Storefront.Payment

def find (id : Uuid) : Session (Option Payment) := do
  Session.readFound PaymentRow.payment? (← Table.payments.selectFirst fun row => row.id = id)

def findForOrder (order : OrderId) : Session (Option Payment) := do
  Session.readFound PaymentRow.payment?
    (← Table.payments.selectFirst fun row => row.orderId = order)

/-- The payment with a gateway reference; the store refuses to look for a text with a NUL. -/
def findByGateway (reference : String) : Session (Option Payment) := do
  Session.constraint (fitsText reference)
  Session.readFound PaymentRow.payment?
    (← Table.payments.selectFirst fun row => row.gatewayId = some reference)

/-- Creates the pending payment of an order. -/
def create (order : OrderId) (method : PaymentMethod) (amount : Cents) (currency : String) :
    Session Payment := do
  let now ← Session.storeTime
  let id := Uuid.numbered (← Session.sequences).payment
  let payment : Payment := {
    id
    orderId := order
    method
    amount
    currency
    status := .pending
    gatewayId := none
    failureReason := none
    paidAt := none
    createdAt := now
    updatedAt := now }
  Table.payments.insert
    (fun t => fitsNumeric 12 amount && fitsVarchar 8 currency &&
      t.orders.any (fun row => row.id = order) &&
      t.payments.all fun row => row.id ≠ id && row.orderId ≠ order)
    [payment.row] (fun s => { s with payment := s.payment + 1 })
  return payment

/-- The texts of a payment fit their columns, and no other payment has its gateway reference. -/
def isStorable (t : Tables) (changed : PaymentRow) : Bool :=
  changed.gatewayId.all (fun reference => fitsVarchar 128 reference &&
    t.payments.all fun row => row.id = changed.id || row.gatewayId ≠ some reference) &&
    changed.failureReason.all fitsText

/-- A payment's row with the columns that may change as they are in `payment`. -/
def overwrite (payment : Payment) (now : Instant) (row : PaymentRow) : PaymentRow :=
  { row with
    status := word payment.status
    gatewayId := payment.gatewayId
    failureReason := payment.failureReason
    paidAt := payment.paidAt
    updatedAt := now }

/-- Writes back every column of a payment that may change. -/
def save (payment : Payment) : Session Payment := do
  let now ← Session.storeTime
  let row ← Table.payments.update (fun row => row.id = payment.id) (payment.overwrite now)
    isStorable
  Session.found .internal row.payment?

end Storefront.Payment
