import Storefront.Catalog.Stock
import Storefront.Payment.Refund

/-!
Cancellation, of single items and of whole orders. A cancelled item goes back into stock. When
nothing of an order is left open, the order is cancelled: a paid online payment is refunded and one
that never succeeded is cancelled, so that a late callback cannot mark it as paid.
-/

namespace Storefront.Order

/-- What the items that are not cancelled come to. -/
def openTotal (items : List OrderItem) : Cents :=
  (items.filter fun item => item.status ≠ .cancelled).foldr
    (fun item rest => item.subtotal + rest) 0

/-- Whether an order has items and all are cancelled. -/
def allCancelled (items : List OrderItem) : Bool :=
  !items.isEmpty && items.all fun item => item.status = .cancelled

/-- The payment state of an order that moves to `next`, or `none` if it stays as it is. -/
def paymentStatusAfter (next : OrderStatus) (method : PaymentMethod)
    (payment : Option PaymentStatus) : Option PaymentStatus :=
  match next with
  | .delivered => some .paid
  | .cancelled =>
    if !method.isCashOnDelivery && payment = some .paid then some .refunded else some .cancelled
  | .pending => none
  | .confirmed => none
  | .shipped => none
  | .partiallyCancelled => none

/-- Cancels an item and puts its units back into stock. -/
def cancelOne (reason : String) (now : Instant) (item : OrderItem) : Session Unit := do
  discard <| OrderItem.save { item with
    status := .cancelled
    cancellationReason := some reason
    cancelledAt := some now }
  Product.restock item.productId item.quantity

/-- Cancels every item of an order that can be, by product. -/
def cancelOpenItems (id : OrderId) (reason : String) (now : Instant) : Session Unit := do
  let items := sortBy (fun a b => a.productId ≤ b.productId) (← OrderItem.listFor id)
  (items.filter (·.status.isCancellable)).forM (cancelOne reason now)

/-- Cancels a payment from which no money has come. -/
def cancelPayment : Option Payment → Session Unit
  | none => pure ()
  | some payment =>
    if payment.status.isUnsettled then discard <| Payment.save { payment with status := .cancelled }
    else pure ()

/-- The order as it stands once its payment is called off. -/
def withPaymentCancelled (order : Order) : Order :=
  { order with paymentStatus := .cancelled, paidAt := none }

/-- Refunds or cancels the payment of an order of which nothing is left open. -/
def settleOnCancel (order : Order) (payment : Option Payment) : Session Order := do
  match paymentStatusAfter .cancelled order.paymentMethod (payment.map (·.status)), payment with
  | some .refunded, some paid =>
    discard paid.refund
    return { order with paymentStatus := .refunded }
  | _, payment =>
    cancelPayment payment
    return order.withPaymentCancelled

/-- Takes one item out of a user's order that has not been shipped. -/
def withdrawItem (user : UserId) (id : OrderId) (itemId : ItemId) (reason : String) :
    Session Order :=
  Session.transaction do
    let order ← Session.found .notFound (← find id)
    order.requireOwner user
    Session.require (order.status ≠ .shipped && order.status ≠ .delivered) .orderAlreadyProcessed
    let item ← Session.found .notFound (← OrderItem.find id itemId)
    Session.require item.status.isCancellable .itemNotCancellable
    cancelOne reason (← Session.wallTime) item
    let items ← OrderItem.listFor id
    let order := { order with finalTotal := openTotal items }
    if allCancelled items then
      let payment ← Payment.findForOrder id
      save (← settleOnCancel { order with status := .cancelled } payment)
    else save order

/-- Cancels one item of a user's order that has not been shipped. -/
def cancelItem (user : UserId) (id : OrderId) (itemId : ItemId) (reason : String) :
    Session Order := do
  let order ← withdrawItem user id itemId reason
  Session.announce (.orderItemCancelled order itemId)
  return order

/-- Cancels a user's pending order; the flag says whether a refund is due. -/
def cancelPending (user : UserId) (id : OrderId) : Session (Order × Bool) :=
  Session.transaction do
    let order ← Session.found .notFound (← find id)
    order.requireOwner user
    Session.require (order.status = .pending) .orderNotCancelable
    cancelOpenItems id "Cancelled by customer" (← Session.wallTime)
    let payment ← Payment.findForOrder id
    let next := paymentStatusAfter .cancelled order.paymentMethod (payment.map (·.status))
    let order := { order with status := .cancelled, finalTotal := 0 }
    if next = some .refunded then return (← save order, true)
    else
      cancelPayment payment
      return (← save order.withPaymentCancelled, false)

/-- Refunds an order whose cancellation is committed. If that fails it is announced, and the
cancellation stands. -/
def refundCancelled (id : OrderId) (order : Order) : Session Order := do
  match ← Session.attempt (Payment.refundForOrder id) with
  | .ok _ => return { order with paymentStatus := .refunded }
  | .error cause =>
    Session.announce (.refundFailed id cause)
    return order

/-- Cancels a user's pending order. A refund that is due follows once the cancellation is
committed. -/
def cancel (user : UserId) (id : OrderId) : Session Order := do
  let cancelled ← cancelPending user id
  Session.announce (.orderCancelled cancelled.1)
  if cancelled.2 then refundCancelled id cancelled.1 else return cancelled.1

end Storefront.Order
