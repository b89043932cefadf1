import Mathlib.Data.List.Nodup
import Storefront.Store.Tables
import Storefront.Text.Digits

/-!
The constraints of the store: keys are unique, references lead somewhere, and stock, prices and
quantities keep to their ranges.
-/

namespace Storefront

/-- An amount fits its column if a larger one does. -/
theorem fitsNumeric_of_le {digits : Nat} {n m : Int} (natural : 0 ≤ n) (hle : n ≤ m)
    (fits : fitsNumeric digits m) : fitsNumeric digits n := by
  rw [fitsNumeric, decide_eq_true_eq] at fits ⊢
  omega

/-- The tables meet the constraints that they were created with. -/
structure Tables.Constrained (t : Tables) : Prop where
  products_key : (t.products.map (·.id)).Nodup
  productPrices_key : (t.productPrices.map (·.id)).Nodup
  addresses_key : (t.addresses.map (·.id)).Nodup
  carts_key : (t.carts.map (·.id)).Nodup
  cartItems_key : (t.cartItems.map fun line => (line.cartId, line.productId)).Nodup
  orderAddresses_key : (t.orderAddresses.map (·.id)).Nodup
  orders_key : (t.orders.map (·.id)).Nodup
  orderItems_key : (t.orderItems.map (·.id)).Nodup
  payments_key : (t.payments.map (·.id)).Nodup
  one_price_per_tier : (t.productPrices.map fun price => (price.productId, price.priceType)).Nodup
  one_cart_per_user : (t.carts.map (·.userId)).Nodup
  one_payment_per_order : (t.payments.map (·.orderId)).Nodup
  one_payment_per_reference : (t.payments.filterMap (·.gatewayId)).Nodup
  price_product : ∀ price ∈ t.productPrices, ∃ product ∈ t.products, product.id = price.productId
  line_cart : ∀ line ∈ t.cartItems, ∃ cart ∈ t.carts, cart.id = line.cartId
  line_product : ∀ line ∈ t.cartItems, ∃ product ∈ t.products, product.id = line.productId
  order_address : ∀ order ∈ t.orders, ∀ id, order.shippingAddressId = some id →
    ∃ address ∈ t.orderAddresses, address.id = id
  item_order : ∀ item ∈ t.orderItems, ∃ order ∈ t.orders, order.id = item.orderId
  item_product : ∀ item ∈ t.orderItems, ∃ product ∈ t.products, product.id = item.productId
  payment_order : ∀ payment ∈ t.payments, ∃ order ∈ t.orders, order.id = payment.orderId
  stock_natural : ∀ product ∈ t.products, 0 ≤ product.stock
  stock_fits : ∀ product ∈ t.products, Text.fitsSigned 32 product.stock
  price_natural : ∀ price ∈ t.productPrices, 0 ≤ price.amount
  line_positive : ∀ line ∈ t.cartItems, 0 < line.quantity
  item_positive : ∀ item ∈ t.orderItems, 0 < item.quantity

namespace Tables.Constrained

variable {t : Tables}

/-- Without orders there are no items. -/
theorem orderItems_eq_nil (h : t.Constrained) (orders : t.orders = []) : t.orderItems = [] := by
  refine List.eq_nil_iff_forall_not_mem.mpr fun item hitem => ?_
  obtain ⟨order, horder, -⟩ := h.item_order item hitem
  exact absurd orders (List.ne_nil_of_mem horder)

/-- Without orders there are no payments. -/
theorem payments_eq_nil (h : t.Constrained) (orders : t.orders = []) : t.payments = [] := by
  refine List.eq_nil_iff_forall_not_mem.mpr fun payment hpayment => ?_
  obtain ⟨order, horder, -⟩ := h.payment_order payment hpayment
  exact absurd orders (List.ne_nil_of_mem horder)

end Tables.Constrained

/-- A store that holds nothing yet. -/
def Store.empty : Store := ⟨.empty, ⟨1, 1, 1, 1, 1⟩⟩

/-- A store with two products, a tenth off one of them, and the address of user 7. -/
def Store.stocked : Store where
  tables := { Tables.empty with
    products := [⟨3, "Mug", 5, true, some 1000, none, none, ⟨0, 0⟩, ⟨0, 0⟩⟩,
      ⟨4, "Lamp", 2, true, none, none, none, ⟨0, 0⟩, ⟨0, 0⟩⟩]
    productPrices := [⟨1, 3, "H", 1005⟩, ⟨2, 4, "H", 4000⟩]
    addresses := [⟨6, 7, ⟨"Ada", "1", "Low Road 1", "Town", "State", "IN", "2", none⟩, true, ⟨0, 0⟩,
      ⟨0, 0⟩⟩] }
  sequences := ⟨1, 1, 1, 1, 1⟩

end Storefront
