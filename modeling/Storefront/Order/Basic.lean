import Storefront.Address
import Storefront.Order.Status
import Storefront.Payment.Status

/-!
Orders and their items. An item keeps the price of its product as it was when the order was placed.

The store keeps the states of both as texts. A row whose texts are all words of their lists stands
for an order or an item; any other row stands for nothing.
-/

namespace Storefront

/-- What an order has in common with its row. -/
structure OrderColumns where
  id : OrderId
  userId : UserId
  total : Cents
  discount : Cents
  finalTotal : Cents
  shippingAddressId : Option AddressId
  paidAt : Option Instant
  createdAt : Instant
  updatedAt : Instant
  deriving DecidableEq, Repr

structure Order extends OrderColumns where
  status : OrderStatus
  paymentMethod : PaymentMethod
  paymentStatus : PaymentStatus
  deriving DecidableEq, Repr

/-- A row of the orders in the store. -/
structure OrderRow extends OrderColumns where
  status : String
  paymentMethod : String
  paymentStatus : String
  deriving DecidableEq, Repr

def Order.row (order : Order) : OrderRow :=
  { order.toOrderColumns with
    status := word order.status
    paymentMethod := word order.paymentMethod
    paymentStatus := word order.paymentStatus }

namespace OrderRow

/-- The order that a row stands for. -/
def order? (row : OrderRow) : Option Order := do
  return { row.toOrderColumns with
    status := ← Worded.ofWord? row.status
    paymentMethod := ← Worded.ofWord? row.paymentMethod
    paymentStatus := ← Worded.ofWord? row.paymentStatus }

@[simp] theorem order?_row (order : Order) : order.row.order? = some order := by
  simp [Order.row, order?]

end OrderRow

/-- What an item has in common with its row. -/
structure ItemColumns where
  id : ItemId
  orderId : OrderId
  productId : ProductId
  productName : String
  priceType : String
  quantity : Int
  price : Cents
  discountAmount : Cents
  finalPrice : Cents
  subtotal : Cents
  cancellationReason : Option String
  cancelledAt : Option Instant
  createdAt : Instant
  updatedAt : Instant
  deriving DecidableEq, Repr

structure OrderItem extends ItemColumns where
  status : ItemStatus
  deriving DecidableEq, Repr

/-- A row of the items in the store. -/
structure ItemRow extends ItemColumns where
  status : String
  deriving DecidableEq, Repr

def OrderItem.row (item : OrderItem) : ItemRow :=
  { item.toItemColumns with status := word item.status }

namespace ItemRow

/-- The item that a row stands for. -/
def item? (row : ItemRow) : Option OrderItem := do
  return { row.toItemColumns with status := ← Worded.ofWord? row.status }

@[simp] theorem item?_row (item : OrderItem) : item.row.item? = some item := by
  simp [OrderItem.row, item?]

end ItemRow

/-- An order with its items and the address it goes to. -/
structure OrderDetails where
  order : Order
  items : List OrderItem
  shippingAddress : Option OrderAddress
  deriving DecidableEq, Repr

/-- One page of a user's orders. -/
structure OrderPage where
  orders : List Order
  total : Int
  page : Int
  limit : Int
  deriving DecidableEq, Repr

end Storefront
