import Storefront.Cart.Basic
import Storefront.Http.Decoder
import Storefront.Words

/-!
The bodies that requests carry, each a record with fields of its own.
-/

namespace Storefront.Http

open Decoder

/-- Where the lines of an order are to come from. -/
inductive OrderType where
  | cart
  | direct
  deriving DecidableEq, Repr

instance : Worded OrderType where
  kind := "OrderType"
  all := [.cart, .direct]
  word
    | .cart => "cart"
    | .direct => "direct"

def lineBody : Decoder LineRequest :=
  let productId : RecordField (Option Int × Option Int) :=
    ⟨"product_id", false, (·.1.isSome), fun draft => return (some (← int32), draft.2)⟩
  let quantity : RecordField (Option Int × Option Int) :=
    ⟨"quantity", false, (·.2.isSome), fun draft => return (draft.1, some (← int32))⟩
  record [productId, quantity] (none, none) fun draft => return ⟨← draft.1, ← draft.2⟩

structure CheckoutBody where
  addressId : Int
  paymentMethod : String
  orderType : OrderType
  items : List LineRequest
  deriving DecidableEq, Repr

structure CheckoutDraft where
  addressId : Option Int
  paymentMethod : Option String
  orderType : Option OrderType
  items : Option (List LineRequest)

/-- Without an order type the cart is checked out. -/
def checkoutBody : Decoder CheckoutBody :=
  let fields : List (RecordField CheckoutDraft) := [
    ⟨"address_id", false, (·.addressId.isSome),
      fun draft => return { draft with addressId := some (← int32) }⟩,
    ⟨"payment_method", false, (·.paymentMethod.isSome),
      fun draft => return { draft with paymentMethod := some (← text) }⟩,
    ⟨"order_type", true, (·.orderType.isSome),
      fun draft => return { draft with orderType := some (← choice Worded.ofWord?) }⟩,
    ⟨"items", true, (·.items.isSome),
      fun draft => return { draft with items := some (← list lineBody) }⟩]
  record fields ⟨none, none, none, none⟩ fun draft => return {
    addressId := ← draft.addressId
    paymentMethod := ← draft.paymentMethod
    orderType := draft.orderType.getD .cart
    items := draft.items.getD [] }

def cartBody : Decoder (List LineRequest) :=
  let items : RecordField (Option (List LineRequest)) :=
    ⟨"items", false, (·.isSome), fun _ => return some (← list lineBody)⟩
  record [items] none id

/-- A record of one text. -/
def textBody (name : String) : Decoder String :=
  let value : RecordField (Option String) :=
    ⟨name, false, (·.isSome), fun _ => return some (← text)⟩
  record [value] none id

def cancelItemBody : Decoder String := textBody "reason"

def orderStatusBody : Decoder String := textBody "status"

structure IntentBody where
  orderId : Int
  method : String
  deriving DecidableEq, Repr

def intentBody : Decoder IntentBody :=
  let orderId : RecordField (Option Int × Option String) :=
    ⟨"order_id", false, (·.1.isSome), fun draft => return (some (← int32), draft.2)⟩
  let method : RecordField (Option Int × Option String) :=
    ⟨"method", false, (·.2.isSome), fun draft => return (draft.1, some (← text))⟩
  record [orderId, method] (none, none) fun draft => return ⟨← draft.1, ← draft.2⟩

structure ConfirmationBody where
  paymentId : String
  method : String
  status : String
  deriving DecidableEq, Repr

structure ConfirmationDraft where
  paymentId : Option String
  method : Option String
  status : Option String

def confirmationBody : Decoder ConfirmationBody :=
  let fields : List (RecordField ConfirmationDraft) := [
    ⟨"payment_id", false, (·.paymentId.isSome),
      fun draft => return { draft with paymentId := some (← text) }⟩,
    ⟨"method", false, (·.method.isSome),
      fun draft => return { draft with method := some (← text) }⟩,
    ⟨"status", false, (·.status.isSome),
      fun draft => return { draft with status := some (← text) }⟩]
  record fields ⟨none, none, none⟩ fun draft =>
    return ⟨← draft.paymentId, ← draft.method, ← draft.status⟩

structure ProductBody where
  stock : Option Int
  isActive : Option Bool
  deriving DecidableEq, Repr

/-- Both fields may be missing or `null`; missing is told from `null` where a field is repeated. -/
def productBody : Decoder ProductBody :=
  let stock : RecordField (Option (Option Int) × Option (Option Bool)) :=
    ⟨"stock", false, (·.1.isSome), fun draft => return (some (← nullable int32), draft.2)⟩
  let isActive : RecordField (Option (Option Int) × Option (Option Bool)) :=
    ⟨"is_active", false, (·.2.isSome), fun draft => return (draft.1, some (← nullable bool))⟩
  record [stock, isActive] (none, none) fun draft => some ⟨draft.1.join, draft.2.join⟩

end Storefront.Http
