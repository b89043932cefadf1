import Storefront.Order.Lines
import Storefront.Sorting
import Storefront.Store.Table
import Storefront.Text.Digits

/-!
Orders, their items and their addresses in the store. A statement that returns a row which stands
for nothing fails.
-/

namespace Storefront

/-- A saved address, if it belongs to the user. -/
def Address.findFor (user : UserId) (id : AddressId) : Session (Option Address) :=
  Table.addresses.selectFirst fun row => row.id = id && row.userId = user

namespace Destination

/-- The store takes every part of a destination as a text. -/
def isStorable (d : Destination) : Bool :=
  [d.fullName, d.phone, d.address, d.city, d.state, d.country, d.zipCode].all fitsText &&
    d.landmark.all fitsText

end Destination

namespace OrderAddress

/-- Copies a destination for an order. -/
def create (destination : Destination) : Session OrderAddress := do
  let now ← Session.storeTime
  let id := (← Session.sequences).orderAddress
  let row : OrderAddress := ⟨id, destination, now⟩
  Table.orderAddresses.insert
    (fun t => destination.isStorable && Text.fitsSigned 32 id &&
      t.orderAddresses.all fun other => other.id ≠ id)
    [row] (fun s => { s with orderAddress := s.orderAddress + 1 })
  return row

end OrderAddress

namespace Order

def find (id : OrderId) : Session (Option Order) := do
  Session.readFound OrderRow.order? (← Table.orders.selectFirst fun row => row.id = id)

/-- An order can be seen and changed by the user who placed it. -/
def requireOwner (user : UserId) (order : Order) : Session Unit :=
  Session.require (order.userId = user) (.forbidden "Order belongs to another user")

/-- The amounts of an order fit their columns. -/
def isStorable (order : Order) : Bool :=
  fitsNumeric 12 order.total && fitsNumeric 12 order.discount && fitsNumeric 12 order.finalTotal

/-- Places a pending order that nothing has been paid for. -/
def create (user : UserId) (totals : OrderTotals) (address : AddressId) (method : PaymentMethod) :
    Session Order := do
  let now ← Session.storeTime
  let id := (← Session.sequences).order
  let order : Order := {
    id
    userId := user
    total := totals.total
    discount := totals.discount
    finalTotal := totals.finalTotal
    status := .pending
    shippingAddressId := some address
    paymentMethod := method
    paymentStatus := .pending
    paidAt := none
    createdAt := now
    updatedAt := now }
  Table.orders.insert
    (fun t => order.isStorable && Text.fitsSigned 32 id && t.orders.all (fun row => row.id ≠ id) &&
      t.orderAddresses.any fun row => row.id = address)
    [order.row] (fun s => { s with order := s.order + 1 })
  return order

/-- An order's row with the columns that may change as they are in `order`. -/
def overwrite (order : Order) (now : Instant) (row : OrderRow) : OrderRow :=
  { row with
    finalTotal := order.finalTotal
    status := word order.status
    paymentMethod := word order.paymentMethod
    paymentStatus := word order.paymentStatus
    paidAt := order.paidAt
    updatedAt := now }

/-- Writes back every column of an order that may change. -/
def save (order : Order) : Session Order := do
  let now ← Session.storeTime
  let row ← Table.orders.update (fun row => row.id = order.id) (order.overwrite now)
    (fun _ row => fitsNumeric 12 row.finalTotal)
  Session.found .internal row.order?

/-- Newest first; of two orders of one instant the later identifier comes first. -/
def newestFirst (rows : List OrderRow) : List OrderRow :=
  sortBy (fun a b => b.createdAt < a.createdAt || (a.createdAt = b.createdAt && b.id ≤ a.id)) rows

def listAll : Session (List Order) := do
  Session.readRows OrderRow.order? (newestFirst (← Table.orders.select fun _ => true))

/-- So many of a user's orders, newest first, after the first few. No other row has to stand for an
order. -/
def listFor (user : UserId) (skipped limit : Nat) : Session (List Order) := do
  let rows ← Table.orders.select fun row => row.userId = user
  Session.readRows OrderRow.order? (((newestFirst rows).drop skipped).take limit)

def countFor (user : UserId) : Session Nat := do
  return (← Table.orders.select fun row => row.userId = user).length

end Order

namespace OrderItem

/-- The items of an order, by identifier. -/
def listFor (order : OrderId) : Session (List OrderItem) := do
  let rows ← Table.orderItems.select fun row => row.orderId = order
  Session.readRows ItemRow.item? (sortBy (fun a b => a.id ≤ b.id) rows)

/-- An item of the given order. -/
def find (order : OrderId) (id : ItemId) : Session (Option OrderItem) := do
  Session.readFound ItemRow.item?
    (← Table.orderItems.selectFirst fun row => row.id = id && row.orderId = order)

def ofLine (order : OrderId) (now : Instant) (id : ItemId) (line : PricedLine) : OrderItem where
  id := id
  orderId := order
  productId := line.productId
  productName := line.productName
  priceType := line.priceType
  quantity := line.quantity
  price := line.price
  discountAmount := line.discountAmount
  finalPrice := line.finalPrice
  subtotal := line.subtotal
  status := .pending
  cancellationReason := none
  cancelledAt := none
  createdAt := now
  updatedAt := now

/-- Items for the lines of an order, with ascending identifiers. -/
def ofLines (order : OrderId) (now : Instant) : ItemId → List PricedLine → List OrderItem
  | _, [] => []
  | id, line :: rest => ofLine order now id line :: ofLines order now (id + 1) rest

/-- The columns of a new item hold its values, and its order and product exist. -/
def isStorable (t : Tables) (item : OrderItem) : Bool :=
  t.orders.any (fun row => row.id = item.orderId) &&
    t.products.any (fun row => row.id = item.productId) &&
    fitsText item.productName && fitsVarchar 16 item.priceType && decide (0 < item.quantity) &&
    fitsNumeric 12 item.price && fitsNumeric 12 item.discountAmount &&
    fitsNumeric 12 item.finalPrice && fitsNumeric 12 item.subtotal &&
    Text.fitsSigned 32 item.id && t.orderItems.all fun row => row.id ≠ item.id

/-- Adds all items of a new order at once. -/
def createAll (order : OrderId) (lines : List PricedLine) : Session Unit := do
  let now ← Session.storeTime
  let items := ofLines order now (← Session.sequences).orderItem lines
  Table.orderItems.insert (fun t => items.all (isStorable t)) (items.map row)
    (fun s => { s with orderItem := s.orderItem + items.length })

/-- An item's row with the columns that may change as they are in `item`. -/
def overwrite (item : OrderItem) (now : Instant) (row : ItemRow) : ItemRow :=
  { row with
    status := word item.status
    cancellationReason := item.cancellationReason
    cancelledAt := item.cancelledAt
    updatedAt := now }

/-- Writes back every column of an item that may change. -/
def save (item : OrderItem) : Session OrderItem := do
  let now ← Session.storeTime
  let row ← Table.orderItems.update (fun row => row.id = item.id) (item.overwrite now)
    (fun _ row => row.cancellationReason.all fitsText)
  Session.found .internal row.item?

end OrderItem

namespace OrderDetails

/-- An order with its items and its address. -/
def find (id : OrderId) : Session (Option OrderDetails) := do
  match ← Order.find id with
  | none => return none
  | some order =>
    let items ← OrderItem.listFor order.id
    match order.shippingAddressId with
    | none => return some ⟨order, items, none⟩
    | some address =>
      return some ⟨order, items, ← Table.orderAddresses.selectFirst fun row => row.id = address⟩

end OrderDetails
end Storefront
