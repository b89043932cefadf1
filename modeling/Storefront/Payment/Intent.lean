import Storefront.Order.Storage
import Storefront.Payment.Storage

/-!
Payment intents. A pending order without a payment gets one, over what the order comes to, and the
client gets the gateway reference to complete it by. Cash on delivery has no reference; it stays
pending until the order is delivered.
-/

namespace Storefront.Payment

/-- Creates the payment of an order, with the reference to complete it by. -/
def openIntent (user : UserId) (id : OrderId) (method : PaymentMethod) (currency : String) :
    Session PaymentIntent :=
  Session.transaction do
    let order ← Session.found .notFound (← Order.find id)
    order.requireOwner user
    Session.require (order.status = .pending) .orderNotPayable
    Session.require (← findForOrder id).isNone .paymentAlreadyExists
    let payment ← create id method order.finalTotal currency
    match gatewayReference method payment.id with
    | none => return PaymentIntent.mk payment none
    | some reference =>
      return PaymentIntent.mk (← save { payment with gatewayId := some reference }) (some reference)

def createIntent (user : UserId) (id : OrderId) (method : PaymentMethod) :
    Session PaymentIntent := do
  let intent ← openIntent user id method (← read).currency
  Session.announce (.paymentUpdated intent.payment)
  return intent

/-- The payment of a user's order. -/
def findForUser (user : UserId) (id : OrderId) : Session Payment := do
  let order ← Session.found .notFound (← Order.find id)
  order.requireOwner user
  Session.found .paymentNotFound (← findForOrder id)

end Storefront.Payment
