import Storefront.Order.Storage
import Storefront.Payment.Storage

/-!
Callbacks of the gateway. A callback settles a payment that is pending or has failed, unless its
order is cancelled. Whatever is said of a payment that is already paid changes nothing.
-/

namespace Storefront.Payment

/-- What a callback does to a payment. -/
inductive Confirmation where
  | alreadyPaid
  | paid
  | failed
  deriving DecidableEq, Repr

/-- Decides by the states of the order and of the payment, and by what the gateway reports. -/
def decideConfirmation (order : OrderStatus) (current : PaymentStatus) (reported : String) :
    Except Error Confirmation :=
  match current with
  | .paid => .ok .alreadyPaid
  | .refunded => .error (.invalidPaymentStatus ("payment is already " ++ word current))
  | .cancelled => .error (.invalidPaymentStatus ("payment is already " ++ word current))
  | .pending | .failed =>
    if order = .cancelled then .error (.invalidPaymentStatus "order is cancelled")
    else if reported = "success" then .ok .paid
    else if reported = "failed" then .ok .failed
    else .error (.invalidPaymentStatus reported)

/-- Marks a payment as paid now, and its order with it. -/
def settle (order : Order) (payment : Payment) : Session Payment := do
  let now ← Session.wallTime
  let paid ← save { payment with status := .paid, paidAt := some now, failureReason := none }
  discard <| Order.save { order with
    paymentStatus := .paid
    paymentMethod := paid.method
    paidAt := paid.paidAt }
  return paid

/-- Applies a callback to the payment with the given gateway reference; the flag says whether that
changes the payment. -/
def applyCallback (reference reported : String) : Session (Payment × Bool) :=
  Session.transaction do
    let found ← Session.found .paymentNotFound (← findByGateway reference)
    let order ← Session.found .notFound (← Order.find found.orderId)
    let payment ← Session.found .paymentNotFound (← find found.id)
    match ← Session.ofExcept (decideConfirmation order.status payment.status reported) with
    | .alreadyPaid => return (payment, false)
    | .paid => return (← settle order payment, true)
    | .failed =>
      let failed ← save { payment with
        status := .failed
        failureReason := some "Gateway reported failure" }
      return (failed, true)

/-- Confirms a payment as its gateway reports. -/
def confirm (reference reported : String) : Session Payment := do
  let called ← applyCallback reference reported
  if called.2 then Session.announce (.paymentUpdated called.1)
  return called.1

end Storefront.Payment
