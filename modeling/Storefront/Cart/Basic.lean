import Storefront.Identifier
import Storefront.Instant.Basic

/-!
Shopping carts. A user has at most one, and it has at most one line for a product.
-/

namespace Storefront

/-- So many units of a product, as a customer asks for them. -/
structure LineRequest where
  productId : ProductId
  quantity : Int
  deriving DecidableEq, Repr

structure Cart where
  id : CartId
  userId : UserId
  createdAt : Instant
  updatedAt : Instant
  deriving DecidableEq, Repr

structure CartItem where
  cartId : CartId
  productId : ProductId
  quantity : Int
  createdAt : Instant
  updatedAt : Instant
  deriving DecidableEq, Repr

def CartItem.request (item : CartItem) : LineRequest :=
  ⟨item.productId, item.quantity⟩

structure FilledCart where
  cart : Cart
  items : List CartItem
  deriving DecidableEq, Repr

end Storefront
