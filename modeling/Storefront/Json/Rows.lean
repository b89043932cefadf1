import Storefront.Decimal.Text
import Storefront.Instant.Text
import Storefront.Json.Value
import Storefront.Service.Operation

/-!
The JSON forms of rows, of events and of what operations answer. Amounts are texts with two places,
instants are texts, and a missing value is `null`.
-/

namespace Storefront

namespace Json

def cents (n : Cents) : Json := .string (renderHundredths n)

def instant (t : Instant) : Json := .string t.render

def word {α : Type} [Worded α] (a : α) : Json := .string (Worded.word a)

end Json

def Product.toJson (p : Product) : Json :=
  .object [
    ("id", .int p.id),
    ("name", .string p.name),
    ("stock", .int p.stock),
    ("is_active", .bool p.isActive),
    ("discount_percent", .ofOption .cents p.discountPercent),
    ("offer_start", .ofOption .instant p.offerStart),
    ("offer_end", .ofOption .instant p.offerEnd),
    ("created_at", .instant p.createdAt),
    ("updated_at", .instant p.updatedAt)]

def Cart.toJson (c : Cart) : Json :=
  .object [
    ("id", .int c.id),
    ("user_id", .int c.userId),
    ("created_at", .instant c.createdAt),
    ("updated_at", .instant c.updatedAt)]

def CartItem.toJson (item : CartItem) : Json :=
  .object [
    ("cart_id", .int item.cartId),
    ("product_id", .int item.productId),
    ("quantity", .int item.quantity),
    ("created_at", .instant item.createdAt),
    ("updated_at", .instant item.updatedAt)]

def FilledCart.toJson (c : FilledCart) : Json :=
  .object [("cart", c.cart.toJson), ("items", .array (c.items.map CartItem.toJson))]

def OrderAddress.toJson (a : OrderAddress) : Json :=
  .object [
    ("id", .int a.id),
    ("full_name", .string a.destination.fullName),
    ("phone", .string a.destination.phone),
    ("address", .string a.destination.address),
    ("city", .string a.destination.city),
    ("state", .string a.destination.state),
    ("country", .string a.destination.country),
    ("zip_code", .string a.destination.zipCode),
    ("landmark", .ofOption .string a.destination.landmark),
    ("created_at", .instant a.createdAt)]

def OrderRow.members (o : OrderRow) : List (String × Json) := [
  ("id", .int o.id),
  ("user_id", .int o.userId),
  ("total", .cents o.total),
  ("discount", .cents o.discount),
  ("final_total", .cents o.finalTotal),
  ("status", .string o.status),
  ("shipping_address_id", .ofOption .int o.shippingAddressId),
  ("payment_method", .string o.paymentMethod),
  ("payment_status", .string o.paymentStatus),
  ("paid_at", .ofOption .instant o.paidAt),
  ("created_at", .instant o.createdAt),
  ("updated_at", .instant o.updatedAt)]

def OrderRow.toJson (o : OrderRow) : Json := .object o.members

def Order.toJson (o : Order) : Json := o.row.toJson

def ItemRow.toJson (item : ItemRow) : Json :=
  .object [
    ("id", .int item.id),
    ("order_id", .int item.orderId),
    ("product_id", .int item.productId),
    ("product_name", .string item.productName),
    ("price_type", .string item.priceType),
    ("quantity", .int item.quantity),
    ("price", .cents item.price),
    ("discount_amount", .cents item.discountAmount),
    ("final_price", .cents item.finalPrice),
    ("subtotal", .cents item.subtotal),
    ("status", .string item.status),
    ("cancellation_reason", .ofOption .string item.cancellationReason),
    ("cancelled_at", .ofOption .instant item.cancelledAt),
    ("created_at", .instant item.createdAt),
    ("updated_at", .instant item.updatedAt)]

def OrderItem.toJson (item : OrderItem) : Json := item.row.toJson

/-- The order's own members, and with them its items and its address. -/
def OrderDetails.toJson (d : OrderDetails) : Json :=
  .object (d.order.row.members ++ [
    ("items", .array (d.items.map OrderItem.toJson)),
    ("shipping_address", .ofOption OrderAddress.toJson d.shippingAddress)])

def OrderPage.toJson (p : OrderPage) : Json :=
  .object [
    ("orders", .array (p.orders.map Order.toJson)),
    ("total", .int p.total),
    ("page", .int p.page),
    ("limit", .int p.limit)]

def PaymentRow.toJson (p : PaymentRow) : Json :=
  .object [
    ("id", .string p.id.render),
    ("order_id", .int p.orderId),
    ("payment_method", .string p.method),
    ("amount", .cents p.amount),
    ("currency", .string p.currency),
    ("status", .string p.status),
    ("gateway_id", .ofOption .string p.gatewayId),
    ("failure_reason", .ofOption .string p.failureReason),
    ("paid_at", .ofOption .instant p.paidAt),
    ("created_at", .instant p.createdAt),
    ("updated_at", .instant p.updatedAt)]

def Payment.toJson (p : Payment) : Json := p.row.toJson

def PaymentIntent.toJson (i : PaymentIntent) : Json :=
  .object [
    ("payment", i.payment.toJson),
    ("client_secret", .ofOption .string i.clientSecret)]

def Event.toJson : Event → Json
  | .orderPlaced order =>
    .object [("event", .string "order_placed"), ("order", order.toJson)]
  | .orderItemCancelled order item =>
    .object [("event", .string "order_item_cancelled"), ("order", order.toJson),
      ("item_id", .int item)]
  | .orderCancelled order =>
    .object [("event", .string "order_cancelled"), ("order", order.toJson)]
  | .orderStatusChanged order previous =>
    .object [("event", .string "order_status_changed"), ("order", order.toJson),
      ("previous", .word previous)]
  | .paymentUpdated payment =>
    .object [("event", .string "payment_updated"), ("payment", payment.toJson)]
  | .refundFailed order cause =>
    .object [("event", .string "refund_failed"), ("order_id", .int order),
      ("code", .string cause.code)]

def Reply.toJson : Reply → Json
  | .order o => o.toJson
  | .orderDetails d => d.toJson
  | .orderPage p => p.toJson
  | .orders rows => .array (rows.map Order.toJson)
  | .orderItems rows => .array (rows.map OrderItem.toJson)
  | .payment p => p.toJson
  | .paymentIntent i => i.toJson
  | .cart c => c.toJson
  | .product p => p.toJson

/-- The tables that the service writes to, each by primary key. -/
def Tables.toJson (t : Tables) : Json :=
  let byId {α : Type} (id : α → Int) (form : α → Json) (rows : List α) : Json :=
    .array ((sortBy (fun a b => id a ≤ id b) rows).map form)
  let before (a b : CartItem) : Bool :=
    a.cartId < b.cartId || (a.cartId = b.cartId && a.productId ≤ b.productId)
  .object [
    ("products", byId Product.id Product.toJson t.products),
    ("carts", byId Cart.id Cart.toJson t.carts),
    ("cart_items", .array ((sortBy before t.cartItems).map CartItem.toJson)),
    ("order_addresses", byId OrderAddress.id OrderAddress.toJson t.orderAddresses),
    ("orders", byId (·.id) OrderRow.toJson t.orders),
    ("order_items", byId (·.id) ItemRow.toJson t.orderItems),
    ("payments", byId (fun p => (p.id.bits.toNat : Int)) PaymentRow.toJson t.payments)]

end Storefront
