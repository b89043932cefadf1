import Storefront.Arithmetic
import Storefront.Address
import Storefront.Cart.Basic
import Storefront.Catalog.Product
import Storefront.Order.Basic
import Storefront.Payment.Basic

/-!
The store: its tables, and the sequences that identifiers are taken from. Rows stand in the order
in which they were stored.
-/

namespace Storefront

inductive TableName where
  | products
  | productPrices
  | addresses
  | carts
  | cartItems
  | orderAddresses
  | orders
  | orderItems
  | payments
  deriving DecidableEq, Repr

instance : Worded TableName where
  kind := "TableName"
  all := [.products, .productPrices, .addresses, .carts, .cartItems, .orderAddresses, .orders,
    .orderItems, .payments]
  word
    | .products => "products"
    | .productPrices => "product_prices"
    | .addresses => "addresses"
    | .carts => "carts"
    | .cartItems => "cart_items"
    | .orderAddresses => "order_addresses"
    | .orders => "orders"
    | .orderItems => "order_items"
    | .payments => "payments"

structure Tables where
  products : List Product
  productPrices : List Price
  addresses : List Address
  carts : List Cart
  cartItems : List CartItem
  orderAddresses : List OrderAddress
  orders : List OrderRow
  orderItems : List ItemRow
  payments : List PaymentRow
  deriving DecidableEq, Repr

def Tables.empty : Tables := ⟨[], [], [], [], [], [], [], [], []⟩

/-- The identifiers that the next rows will take. -/
structure Sequences where
  cart : Int
  orderAddress : Int
  order : Int
  orderItem : Int
  payment : Nat
  deriving DecidableEq, Repr

structure Store where
  tables : Tables
  sequences : Sequences
  deriving DecidableEq, Repr

/-- Every row that satisfies `p`, changed by `f`. -/
def updateWhere {α : Type} (p : α → Bool) (f : α → α) (rows : List α) : List α :=
  rows.map fun row => if p row then f row else row

/-- One above the greatest of some identifiers, and 1 where there are none. -/
def nextAfter (ids : List Int) : Int :=
  ids.foldl max 0 + 1

/-- Whether a number of hundredths fits a numeric column of so many digits. -/
def fitsNumeric (digits : Nat) (n : Int) : Bool :=
  n.natAbs < tenTo digits

/-- A text in the store holds no NUL character. -/
def fitsText (text : String) : Bool :=
  !text.toList.contains '\x00'

def fitsVarchar (limit : Nat) (text : String) : Bool :=
  fitsText text && text.length ≤ limit

end Storefront
