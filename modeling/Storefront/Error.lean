import Storefront.Identifier

/-!
Why the service turns a call down. Each cause has a code that clients rely on, an HTTP status and
a message.
-/

namespace Storefront

inductive Error where
  | invalidInput (reason : String)
  | unauthorized
  | forbidden (reason : String)
  | notFound
  | productNotFound (product : ProductId)
  | productUnavailable (product : ProductId)
  | insufficientStock (product : ProductId) (requested available : Int)
  | priceNotFound (product : ProductId)
  | cartEmpty
  | addressNotFound
  | orderNotCancelable
  | orderAlreadyProcessed
  | itemNotCancellable
  | invalidOrderStatus (reason : String)
  | orderNotPayable
  | paymentAlreadyExists
  | paymentNotFound
  | invalidPaymentStatus (reason : String)
  | unsupportedPaymentMethod (name : String)
  | onlyPaidCanBeRefunded
  /-- A statement failed in the store. -/
  | internal
  deriving DecidableEq, Repr

namespace Error

def code : Error → String
  | .invalidInput _ => "INVALID_INPUT"
  | .unauthorized => "UNAUTHORIZED"
  | .forbidden _ => "FORBIDDEN_ACTION"
  | .notFound => "RESOURCE_NOT_FOUND"
  | .productNotFound _ => "PRODUCT_NOT_FOUND"
  | .productUnavailable _ => "PRODUCT_UNAVAILABLE"
  | .insufficientStock _ _ _ => "INSUFFICIENT_STOCK"
  | .priceNotFound _ => "PRICE_NOT_FOUND"
  | .cartEmpty => "CART_EMPTY"
  | .addressNotFound => "ADDRESS_NOT_FOUND"
  | .orderNotCancelable => "ORDER_NOT_CANCELABLE"
  | .orderAlreadyProcessed => "ORDER_ALREADY_PROCESSED"
  | .itemNotCancellable => "ITEM_NOT_CANCELLABLE"
  | .invalidOrderStatus _ => "INVALID_ORDER_STATUS"
  | .orderNotPayable => "ORDER_NOT_PAYABLE"
  | .paymentAlreadyExists => "PAYMENT_ALREADY_EXISTS"
  | .paymentNotFound => "PAYMENT_NOT_FOUND"
  | .invalidPaymentStatus _ => "INVALID_PAYMENT_STATUS"
  | .unsupportedPaymentMethod _ => "UNSUPPORTED_PAYMENT_METHOD"
  | .onlyPaidCanBeRefunded => "ONLY_PAID_CAN_BE_REFUNDED"
  | .internal => "INTERNAL_ERROR"

def httpStatus : Error → Nat
  | .invalidInput _ => 400
  | .cartEmpty => 400
  | .invalidPaymentStatus _ => 400
  | .unsupportedPaymentMethod _ => 400
  | .unauthorized => 401
  | .forbidden _ => 403
  | .notFound => 404
  | .productNotFound _ => 404
  | .priceNotFound _ => 404
  | .addressNotFound => 404
  | .paymentNotFound => 404
  | .productUnavailable _ => 409
  | .insufficientStock _ _ _ => 409
  | .orderNotCancelable => 409
  | .orderAlreadyProcessed => 409
  | .itemNotCancellable => 409
  | .invalidOrderStatus _ => 409
  | .orderNotPayable => 409
  | .paymentAlreadyExists => 409
  | .onlyPaidCanBeRefunded => 409
  | .internal => 500

/-- What a client is told. Nothing is said about a failure of the store itself. -/
def message : Error → String
  | .invalidInput reason => "invalid input: " ++ reason
  | .unauthorized => "missing or invalid user identity"
  | .forbidden reason => reason
  | .notFound => "resource not found"
  | .productNotFound product => "product " ++ product.repr ++ " not found"
  | .productUnavailable product => "product " ++ product.repr ++ " is not available"
  | .insufficientStock product requested available =>
    "insufficient stock for product " ++ product.repr ++ ": requested " ++ requested.repr ++
      ", available " ++ available.repr
  | .priceNotFound product => "product " ++ product.repr ++ " has no price configured"
  | .cartEmpty => "cart is empty"
  | .addressNotFound => "address not found"
  | .orderNotCancelable => "order cannot be canceled in its current state"
  | .orderAlreadyProcessed => "order has already been shipped or delivered"
  | .itemNotCancellable => "order item cannot be cancelled"
  | .invalidOrderStatus reason => "invalid order status: " ++ reason
  | .orderNotPayable => "order is not payable"
  | .paymentAlreadyExists => "payment already exists for this order"
  | .paymentNotFound => "payment not found"
  | .invalidPaymentStatus reason => "invalid payment status: " ++ reason
  | .unsupportedPaymentMethod name => "unsupported payment method: " ++ name
  | .onlyPaidCanBeRefunded => "only paid payments can be refunded"
  | .internal => "internal server error"

theorem httpStatus_ge (e : Error) : 400 ≤ e.httpStatus := by
  cases e <;> simp [httpStatus]

end Error
end Storefront
