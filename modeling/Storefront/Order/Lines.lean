import Storefront.Cart.Basic
import Storefront.Catalog.Pricing

/-!
Order lines. The quantities asked for are summed per product, each sum is checked against the
product's stock and priced, and the lines make up the totals of the order.
-/

namespace Storefront

namespace LineRequest

/-- The largest quantity of one product. -/
def maxQuantity : Int := 2_147_483_647

/-- The quantity asked of a product in a list with at most one line for it. -/
def quantityOf (product : ProductId) (lines : List LineRequest) : Int :=
  ((lines.find? fun line => line.productId = product).map (·.quantity)).getD 0

/-- Adds a quantity to a product's line, in a list that ascends by product. -/
def raise (product : ProductId) (quantity : Int) : List LineRequest → List LineRequest
  | [] => [⟨product, quantity⟩]
  | line :: rest =>
    if product < line.productId then ⟨product, quantity⟩ :: line :: rest
    else if product = line.productId then ⟨product, line.quantity + quantity⟩ :: rest
    else line :: raise product quantity rest

/-- Adds one line to those already summed. -/
def addTo (summed : List LineRequest) (line : LineRequest) : Except Error (List LineRequest) :=
  if line.quantity ≤ 0 then
    .error (.invalidInput ("Quantity for product " ++ line.productId.repr ++ " must be positive"))
  else if maxQuantity < quantityOf line.productId summed + line.quantity then
    .error (.invalidInput ("Quantity for product " ++ line.productId.repr ++ " is too large"))
  else .ok (raise line.productId line.quantity summed)

/-- Sums the quantities per product; the sums ascend by product. -/
def aggregate (lines : List LineRequest) : Except Error (List LineRequest) :=
  lines.foldlM addTo []

example : aggregate [⟨7, 1⟩, ⟨3, 2⟩, ⟨7, 4⟩] = .ok [⟨3, 2⟩, ⟨7, 5⟩] := rfl

end LineRequest

/-- A line whose stock has been checked and whose price is fixed. -/
structure PricedLine where
  productId : ProductId
  productName : String
  priceType : String
  quantity : Int
  price : Cents
  discountAmount : Cents
  finalPrice : Cents
  subtotal : Cents
  deriving DecidableEq, Repr

/-- Prices so many units of a product, which has to be for sale and in stock. -/
def priceLine (product : Product) (prices : List Price) (quantity : Int) (now : Instant) :
    Except Error PricedLine :=
  if !product.isActive then .error (.productUnavailable product.id)
  else if product.stock < quantity then
    .error (.insufficientStock product.id quantity product.stock)
  else do
    let quoted ← quote product.id product.offer (prices.map Price.tier) defaultPriceType now
    let finalPrice := quoted.finalPrice.toHundredths
    return {
      productId := product.id
      productName := product.name
      priceType := quoted.priceType
      quantity
      price := quoted.unitPrice.toHundredths
      discountAmount := quoted.discount.toHundredths
      finalPrice
      subtotal := finalPrice * quantity }

/-- The sums that an order is placed with. -/
structure OrderTotals where
  total : Cents
  discount : Cents
  finalTotal : Cents
  deriving DecidableEq, Repr

def OrderTotals.ofLines (lines : List PricedLine) : OrderTotals :=
  let total := lines.foldr (fun line rest => line.price * line.quantity + rest) 0
  let discount := lines.foldr (fun line rest => line.discountAmount * line.quantity + rest) 0
  ⟨total, discount, total - discount⟩

end Storefront
