import Storefront.Cart.Storage
import Storefront.Catalog.Stock
import Storefront.Order.Storage

/-!
Checkout. An order is placed from the user's cart or from a list of items: its address is copied,
its lines are priced and taken from stock, and the cart is emptied if it was the source. All of it
happens or none.
-/

namespace Storefront.Order

/-- Where the lines of an order come from. -/
inductive Source where
  | cart
  | items (requests : List LineRequest)
  deriving DecidableEq, Repr

/-- The lines asked for, summed per product, and the cart that they come from. -/
def requestedLines (user : UserId) : Source → Session (Option CartId × List LineRequest)
  | .cart => do
    let filled ← Session.found .cartEmpty (← Cart.fetch user)
    Session.require (!filled.items.isEmpty) .cartEmpty
    let lines ← Session.ofExcept (LineRequest.aggregate (filled.items.map CartItem.request))
    return (some filled.cart.id, lines)
  | .items requests => do
    return (none, ← Session.ofExcept (LineRequest.aggregate requests))

/-- Prices a line and takes its units from stock. -/
def reserve (now : Instant) (request : LineRequest) : Session PricedLine := do
  let product ← Session.found (.productNotFound request.productId)
    (← Product.find request.productId)
  let prices ← Product.prices request.productId
  let line ← Session.ofExcept (priceLine product prices request.quantity now)
  discard <| Product.save { product with stock := product.stock - request.quantity }
  return line

/-- Writes a new order with its items and the copy of its address, and takes its lines from
stock. -/
def checkOut (user : UserId) (addressId : AddressId) (method : PaymentMethod) (source : Source) :
    Session Order :=
  Session.transaction do
    let address ← Session.found .addressNotFound (← Address.findFor user addressId)
    let copy ← OrderAddress.create address.destination
    let requested ← requestedLines user source
    let now ← Session.wallTime
    let lines ← requested.2.mapM (reserve now)
    let order ← create user (OrderTotals.ofLines lines) copy.id method
    OrderItem.createAll order.id lines
    requested.1.forM Cart.clear
    return order

/-- Checks out, and reads the order back once it is committed. -/
def place (user : UserId) (addressId : AddressId) (method : PaymentMethod) (source : Source) :
    Session OrderDetails := do
  let order ← checkOut user addressId method source
  Session.announce (.orderPlaced order)
  Session.found .notFound (← OrderDetails.find order.id)

/-- Places an order over the lines of the user's cart. -/
def placeFromCart (user : UserId) (address : AddressId) (method : PaymentMethod) :
    Session OrderDetails :=
  place user address method .cart

/-- Places an order over the given items; the user's cart is left alone. -/
def placeDirect (user : UserId) (address : AddressId) (method : PaymentMethod)
    (requests : List LineRequest) : Session OrderDetails := do
  Session.require (!requests.isEmpty) (.invalidInput "Order has no items")
  place user address method (.items requests)

end Storefront.Order
