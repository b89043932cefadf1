import Storefront.Order.Storage

/-!
Looking up orders.
-/

namespace Storefront.Order

def maxPageSize : Int := 100

/-- An order of anyone's. -/
def details (id : OrderId) : Session OrderDetails := do
  Session.found .notFound (← OrderDetails.find id)

/-- An order of the user's own. -/
def detailsFor (user : UserId) (id : OrderId) : Session OrderDetails := do
  let found ← details id
  found.order.requireOwner user
  return found

def itemsFor (user : UserId) (id : OrderId) : Session (List OrderItem) := do
  let order ← Session.found .notFound (← find id)
  order.requireOwner user
  OrderItem.listFor id

/-- How many orders come before a page; pages are counted from 1. The service multiplies in a word
of 64 bits, and its pages are those that are read here as long as the product fits. A product that
does not fit ends the call or wraps around, as the service is built. -/
def offset (page limit : Int) : Int := (page - 1) * limit

/-- A page of the user's orders. -/
def pageFor (user : UserId) (page limit : Int) : Session OrderPage := do
  Session.require (1 ≤ page) (.invalidInput "page must be at least 1")
  Session.require (1 ≤ limit && limit ≤ maxPageSize)
    (.invalidInput ("limit must be between 1 and " ++ maxPageSize.repr))
  let orders ← listFor user (offset page limit).toNat limit.toNat
  return ⟨orders, ← countFor user, page, limit⟩

end Storefront.Order
