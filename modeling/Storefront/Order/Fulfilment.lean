import Storefront.Order.Cancellation

/-!
Moves of an order by an administrator. Delivery means that the order has been paid for, and
cancellation puts its open items back into stock and settles its payment.
-/

namespace Storefront.Order

/-- Marks a payment that is still pending as paid. -/
def payOnDelivery (paidAt : Instant) (payment : Payment) : Session Unit :=
  if payment.status = .pending then
    discard <| Payment.save { payment with status := .paid, paidAt := some paidAt }
  else pure ()

/-- The order and its payment once the order is delivered: a payment that is still pending becomes
paid at the time that the order was. -/
def settleOnDelivery (now : Instant) (order : Order) (payment : Option Payment) :
    Session Order := do
  let paidAt := order.paidAt.getD now
  payment.forM (payOnDelivery paidAt)
  return { order with paymentStatus := .paid, paidAt := some paidAt }

/-- The order without its open items if it is to be cancelled. -/
def emptyOnCancel (next : OrderStatus) (now : Instant) (order : Order) : Session Order :=
  if next = .cancelled then do
    cancelOpenItems order.id "Cancelled by admin" now
    return { order with finalTotal := 0 }
  else pure order

/-- The order and its payment as the next state of the order asks for. -/
def settle (next : OrderStatus) (now : Instant) (order : Order) (payment : Option Payment) :
    Session Order :=
  match next with
  | .delivered => settleOnDelivery now order payment
  | .cancelled => settleOnCancel order payment
  | _ => pure order

/-- Moves an order to another state; the state that it leaves is part of the result. -/
def move (id : OrderId) (next : OrderStatus) : Session (Order × OrderStatus) :=
  Session.transaction do
    let order ← Session.found .notFound (← find id)
    let previous := order.status
    Session.require (previous.canBecome next)
      (.invalidOrderStatus ("cannot move order from " ++ word previous ++ " to " ++ word next))
    let now ← Session.wallTime
    let order ← emptyOnCancel next now order
    let payment ← Payment.findForOrder id
    let order ← settle next now order payment
    return (← save { order with status := next }, previous)

def updateStatus (id : OrderId) (next : OrderStatus) : Session Order := do
  let moved ← move id next
  Session.announce (.orderStatusChanged moved.1 moved.2)
  return moved.1

end Storefront.Order
