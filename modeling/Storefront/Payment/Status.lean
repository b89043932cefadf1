import Storefront.Words

/-!
States of payments and the ways to pay.
-/

namespace Storefront

inductive PaymentStatus where
  | pending
  | paid
  | failed
  | refunded
  | cancelled
  deriving DecidableEq, Repr

namespace PaymentStatus

instance : Worded PaymentStatus where
  kind := "PaymentStatus"
  all := [.pending, .paid, .failed, .refunded, .cancelled]
  word
    | .pending => "pending"
    | .paid => "paid"
    | .failed => "failed"
    | .refunded => "refunded"
    | .cancelled => "cancelled"

/-- No money has moved yet, and the gateway may still report on the payment. -/
def isUnsettled : PaymentStatus → Bool
  | .pending => true
  | .failed => true
  | .paid => false
  | .refunded => false
  | .cancelled => false

@[simp] theorem ofWord?_word (s : PaymentStatus) : Worded.ofWord? (word s) = some s := by
  cases s <;> decide +kernel

end PaymentStatus

inductive PaymentMethod where
  | cod
  | razorpay
  | stripe
  | paypal
  deriving DecidableEq, Repr

namespace PaymentMethod

instance : Worded PaymentMethod where
  kind := "PaymentMethod"
  all := [.cod, .razorpay, .stripe, .paypal]
  word
    | .cod => "cod"
    | .razorpay => "razorpay"
    | .stripe => "stripe"
    | .paypal => "paypal"

def isCashOnDelivery (m : PaymentMethod) : Bool :=
  m == .cod

/-- What a gateway's references begin with. Cash on delivery goes through no gateway. -/
def gatewayLabel? : PaymentMethod → Option String
  | .cod => none
  | .razorpay => some "razorpay_order"
  | .stripe => some "stripe_payment"
  | .paypal => some "paypal_order"

@[simp] theorem ofWord?_word (m : PaymentMethod) : Worded.ofWord? (word m) = some m := by
  cases m <;> decide +kernel

end PaymentMethod
end Storefront
