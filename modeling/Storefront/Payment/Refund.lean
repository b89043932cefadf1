import Storefront.Order.Storage
import Storefront.Payment.Storage

/-!
Refunds. Only a paid payment can be refunded, and its order says so afterwards.
-/

namespace Storefront.Payment

/-- Marks a payment as refunded; its order is left to the caller. -/
def refund (payment : Payment) : Session Payment :=
  if payment.status = .paid then save { payment with status := .refunded }
  else throw .onlyPaidCanBeRefunded

/-- Refunds the payment of an order, and marks the order. -/
def giveBack (id : OrderId) : Session Payment :=
  Session.transaction do
    let order ← Session.found .notFound (← Order.find id)
    let payment ← Session.found .paymentNotFound (← findForOrder id)
    let refunded ← refund payment
    discard <| Order.save { order with paymentStatus := .refunded }
    return refunded

/-- Refunds the payment of an order. -/
def refundForOrder (id : OrderId) : Session Payment := do
  let refunded ← giveBack id
  Session.announce (.paymentUpdated refunded)
  return refunded

end Storefront.Payment
