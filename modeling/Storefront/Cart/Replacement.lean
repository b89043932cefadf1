import Storefront.Cart.Storage
import Storefront.Catalog.Stock

/-!
Replacing the contents of a cart. A cart holds up to twenty products, one to ten units of each, and
only products that are for sale.
-/

namespace Storefront.Cart

def maxProducts : Nat := 20

def maxQuantity : Int := 10

/-- Finds the first line that breaks a limit, or that repeats a product of `earlier`. -/
def checkLines (earlier : List ProductId) : List LineRequest → Except Error Unit
  | [] => .ok ()
  | line :: rest =>
    if line.quantity < 1 ∨ maxQuantity < line.quantity then
      .error (.invalidInput ("Quantity for product " ++ line.productId.repr ++
        " must be between 1 and " ++ maxQuantity.repr))
    else if line.productId ∈ earlier then
      .error (.invalidInput ("Product " ++ line.productId.repr ++ " appears more than once"))
    else checkLines (line.productId :: earlier) rest

def checkRequests (requests : List LineRequest) : Except Error Unit :=
  if maxProducts < requests.length then
    .error (.invalidInput ("A cart holds at most " ++ maxProducts.repr ++ " products"))
  else checkLines [] requests

/-- A product that is not for sale cannot be put into a cart. -/
def requireForSale (id : ProductId) : Session Unit := do
  let product ← Session.found (.productNotFound id) (← Product.find id)
  Session.require product.isActive (.productUnavailable product.id)

/-- Replaces the lines of a user's cart. The cart itself is answered as it was before. -/
def replace (user : UserId) (requests : List LineRequest) : Session FilledCart := do
  Session.ofExcept (checkRequests requests)
  Session.transaction do
    let filled ← fetchOrCreate user
    discard <| fetch user
    requests.forM fun request => requireForSale request.productId
    return { filled with items := ← replaceLines filled.cart.id requests }

end Storefront.Cart
