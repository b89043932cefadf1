import Storefront.Error
import Storefront.Order.Basic
import Storefront.Payment.Basic

/-!
What the service announces after a change has been committed.
-/

namespace Storefront

inductive Event where
  | orderPlaced (order : Order)
  | orderItemCancelled (order : Order) (item : ItemId)
  | orderCancelled (order : Order)
  | orderStatusChanged (order : Order) (previous : OrderStatus)
  | paymentUpdated (payment : Payment)
  /-- A cancellation stands, but its refund did not go through. -/
  | refundFailed (order : OrderId) (cause : Error)
  deriving DecidableEq, Repr

end Storefront
