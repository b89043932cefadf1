import Storefront.Decimal.Text
import Storefront.Instant.Text
import Storefront.Json.Value
import Storefront.Store.Tables

/-!
Rows by their columns. A column of a row is set by its name to a value given as JSON: amounts are
texts and are rounded to hundredths, instants are texts and are cut to microseconds.
-/

namespace Storefront

namespace Column

def cents? (value : Json) : Option Cents := do
  return (← Decimal.ofText? (← value.string?)).toHundredths

def instant? (value : Json) : Option Instant := do
  return (← Instant.ofText? (← value.string?)).toMicrosecond

/-- A column that may be empty; `null` empties it. -/
def optional? {α : Type} (read : Json → Option α) : Json → Option (Option α)
  | .null => some none
  | value => (read value).map some

end Column

open Column

/-- Rows of which columns can be set by name. -/
class Columned (α : Type) where
  set? (row : α) (column : String) (value : Json) : Option α

instance : Columned Product where
  set? row column value :=
    match column with
    | "id" => return { row with id := ← value.int? }
    | "name" => return { row with name := ← value.string? }
    | "stock" => return { row with stock := ← value.int? }
    | "is_active" => return { row with isActive := ← value.bool? }
    | "discount_percent" => return { row with discountPercent := ← optional? cents? value }
    | "offer_start" => return { row with offerStart := ← optional? instant? value }
    | "offer_end" => return { row with offerEnd := ← optional? instant? value }
    | "created_at" => return { row with createdAt := ← instant? value }
    | "updated_at" => return { row with updatedAt := ← instant? value }
    | _ => none

instance : Columned Price where
  set? row column value :=
    match column with
    | "id" => return { row with id := ← value.int? }
    | "product_id" => return { row with productId := ← value.int? }
    | "price_type" => return { row with priceType := ← value.string? }
    | "price" => return { row with amount := ← cents? value }
    | _ => none

instance : Columned Destination where
  set? row column value :=
    match column with
    | "full_name" => return { row with fullName := ← value.string? }
    | "phone" => return { row with phone := ← value.string? }
    | "address" => return { row with address := ← value.string? }
    | "city" => return { row with city := ← value.string? }
    | "state" => return { row with state := ← value.string? }
    | "country" => return { row with country := ← value.string? }
    | "zip_code" => return { row with zipCode := ← value.string? }
    | "landmark" => return { row with landmark := ← optional? Json.string? value }
    | _ => none

instance : Columned Address where
  set? row column value :=
    match column with
    | "id" => return { row with id := ← value.int? }
    | "user_id" => return { row with userId := ← value.int? }
    | "is_default" => return { row with isDefault := ← value.bool? }
    | "created_at" => return { row with createdAt := ← instant? value }
    | "updated_at" => return { row with updatedAt := ← instant? value }
    | _ => return { row with destination := ← Columned.set? row.destination column value }

instance : Columned Cart where
  set? row column value :=
    match column with
    | "id" => return { row with id := ← value.int? }
    | "user_id" => return { row with userId := ← value.int? }
    | "created_at" => return { row with createdAt := ← instant? value }
    | "updated_at" => return { row with updatedAt := ← instant? value }
    | _ => none

instance : Columned CartItem where
  set? row column value :=
    match column with
    | "cart_id" => return { row with cartId := ← value.int? }
    | "product_id" => return { row with productId := ← value.int? }
    | "quantity" => return { row with quantity := ← value.int? }
    | "created_at" => return { row with createdAt := ← instant? value }
    | "updated_at" => return { row with updatedAt := ← instant? value }
    | _ => none

instance : Columned OrderAddress where
  set? row column value :=
    match column with
    | "id" => return { row with id := ← value.int? }
    | "created_at" => return { row with createdAt := ← instant? value }
    | _ => return { row with destination := ← Columned.set? row.destination column value }

instance : Columned OrderRow where
  set? row column value :=
    match column with
    | "id" => return { row with id := ← value.int? }
    | "user_id" => return { row with userId := ← value.int? }
    | "total" => return { row with total := ← cents? value }
    | "discount" => return { row with discount := ← cents? value }
    | "final_total" => return { row with finalTotal := ← cents? value }
    | "status" => return { row with status := ← value.string? }
    | "shipping_address_id" =>
      return { row with shippingAddressId := ← optional? Json.int? value }
    | "payment_method" => return { row with paymentMethod := ← value.string? }
    | "payment_status" => return { row with paymentStatus := ← value.string? }
    | "paid_at" => return { row with paidAt := ← optional? instant? value }
    | "created_at" => return { row with createdAt := ← instant? value }
    | "updated_at" => return { row with updatedAt := ← instant? value }
    | _ => none

instance : Columned ItemRow where
  set? row column value :=
    match column with
    | "id" => return { row with id := ← value.int? }
    | "order_id" => return { row with orderId := ← value.int? }
    | "product_id" => return { row with productId := ← value.int? }
    | "product_name" => return { row with productName := ← value.string? }
    | "price_type" => return { row with priceType := ← value.string? }
    | "quantity" => return { row with quantity := ← value.int? }
    | "price" => return { row with price := ← cents? value }
    | "discount_amount" => return { row with discountAmount := ← cents? value }
    | "final_price" => return { row with finalPrice := ← cents? value }
    | "subtotal" => return { row with subtotal := ← cents? value }
    | "status" => return { row with status := ← value.string? }
    | "cancellation_reason" =>
      return { row with cancellationReason := ← optional? Json.string? value }
    | "cancelled_at" => return { row with cancelledAt := ← optional? instant? value }
    | "created_at" => return { row with createdAt := ← instant? value }
    | "updated_at" => return { row with updatedAt := ← instant? value }
    | _ => none

instance : Columned PaymentRow where
  set? row column value :=
    match column with
    | "id" => return { row with id := ← Uuid.ofText? (← value.string?) }
    | "order_id" => return { row with orderId := ← value.int? }
    | "payment_method" => return { row with method := ← value.string? }
    | "amount" => return { row with amount := ← cents? value }
    | "currency" => return { row with currency := ← value.string? }
    | "status" => return { row with status := ← value.string? }
    | "gateway_id" => return { row with gatewayId := ← optional? Json.string? value }
    | "failure_reason" => return { row with failureReason := ← optional? Json.string? value }
    | "paid_at" => return { row with paidAt := ← optional? instant? value }
    | "created_at" => return { row with createdAt := ← instant? value }
    | "updated_at" => return { row with updatedAt := ← instant? value }
    | _ => none

/-- Sets columns one after the other. -/
def setColumns? {α : Type} [Columned α] (row : α) (columns : List (String × Json)) : Option α :=
  columns.foldlM (fun row column => Columned.set? row column.1 column.2) row

/-- Columns of one row to be overwritten in the store itself, past the service. -/
structure Edit where
  table : TableName
  id : Json
  columns : List (String × Json)
  deriving Repr

/-- Overwrites columns of the rows that satisfy `p`. -/
def editRows? {α : Type} [Columned α] (p : α → Bool) (columns : List (String × Json))
    (rows : List α) : Option (List α) :=
  rows.mapM fun row => if p row then setColumns? row columns else some row

/-- The tables after an edit. The lines of carts have no identifier, and cannot be edited. -/
def Tables.edit? (t : Tables) (e : Edit) : Option Tables :=
  match e.table, e.id with
  | .payments, .string text => do
    let id ← Uuid.ofText? text
    return { t with payments := ← editRows? (fun row => row.id = id) e.columns t.payments }
  | table, .number n => do
    let id ← n.int?
    match table with
    | .products =>
      return { t with products := ← editRows? (fun row => row.id = id) e.columns t.products }
    | .productPrices =>
      return { t with
        productPrices := ← editRows? (fun row => row.id = id) e.columns t.productPrices }
    | .addresses =>
      return { t with addresses := ← editRows? (fun row => row.id = id) e.columns t.addresses }
    | .carts => return { t with carts := ← editRows? (fun row => row.id = id) e.columns t.carts }
    | .orderAddresses =>
      return { t with
        orderAddresses := ← editRows? (fun row => row.id = id) e.columns t.orderAddresses }
    | .orders => return { t with orders := ← editRows? (fun row => row.id = id) e.columns t.orders }
    | .orderItems =>
      return { t with orderItems := ← editRows? (fun row => row.id = id) e.columns t.orderItems }
    | .cartItems | .payments => none
  | _, _ => none

end Storefront
