import Storefront.Identifier
import Storefront.Instant.Basic
import Storefront.Payment.Status
import Storefront.Uuid

/-!
Payments. An order has at most one; its amount is fixed when it is created. The store keeps its
state and its method as texts, and a row with other texts than words for them stands for no payment.
-/

namespace Storefront

/-- What a payment has in common with its row. -/
structure PaymentColumns where
  id : Uuid
  orderId : OrderId
  amount : Cents
  currency : String
  gatewayId : Option String
  failureReason : Option String
  paidAt : Option Instant
  createdAt : Instant
  updatedAt : Instant
  deriving DecidableEq, Repr

structure Payment extends PaymentColumns where
  method : PaymentMethod
  status : PaymentStatus
  deriving DecidableEq, Repr

/-- A row of the payments in the store. -/
structure PaymentRow extends PaymentColumns where
  method : String
  status : String
  deriving DecidableEq, Repr

def Payment.row (payment : Payment) : PaymentRow :=
  { payment.toPaymentColumns with method := word payment.method, status := word payment.status }

namespace PaymentRow

/-- The payment that a row stands for. -/
def payment? (row : PaymentRow) : Option Payment := do
  return { row.toPaymentColumns with
    method := ← Worded.ofWord? row.method
    status := ← Worded.ofWord? row.status }

@[simp] theorem payment?_row (payment : Payment) : payment.row.payment? = some payment := by
  simp [Payment.row, payment?]

end PaymentRow

/-- A payment just created, with the reference that the client completes it by. -/
structure PaymentIntent where
  payment : Payment
  clientSecret : Option String
  deriving DecidableEq, Repr

/-- The gateway's reference to a payment: its label and the payment's identifier. -/
def gatewayReference (method : PaymentMethod) (id : Uuid) : Option String :=
  method.gatewayLabel?.map fun label => label ++ "_" ++ String.ofList id.hexDigits

end Storefront
