import Storefront.Sorting
import Storefront.Store.Table

/-!
The stock of products: reading a product and its prices, and putting units back on the shelf. Stock
is never negative.
-/

namespace Storefront

namespace Product

def find (id : ProductId) : Session (Option Product) :=
  Table.products.selectFirst fun p => p.id = id

/-- A product's prices, the lowest identifier first. -/
def prices (id : ProductId) : Session (List Price) := do
  return sortBy (fun a b => a.id ≤ b.id) (← Table.productPrices.select fun p => p.productId = id)

/-- A product's row with the columns that may change as they are in `product`. -/
def overwrite (product : Product) (now : Instant) (row : Product) : Product :=
  { row with stock := product.stock, isActive := product.isActive, updatedAt := now }

/-- Writes back the stock and the availability of a product. -/
def save (product : Product) : Session Product := do
  let now ← Session.storeTime
  Table.products.update (fun row => row.id = product.id) (product.overwrite now)
    (fun _ row => 0 ≤ row.stock)

/-- Puts units of a product back. A stock that the column has no room for is recorded, and is then
no stock that the service has: see `Session.recordStock`. -/
def restock (id : ProductId) (quantity : Int) : Session Unit := do
  let product ← Session.found (.productNotFound id) (← find id)
  let stock := product.stock + quantity
  Session.recordStock stock
  discard <| save { product with stock }

/-- Sets the stock or the availability of a product. -/
def revise (id : ProductId) (stock : Option Int) (isActive : Option Bool) : Session Product := do
  Session.require (stock.all (0 ≤ ·)) (.invalidInput "Stock cannot be negative")
  Session.transaction do
    let product ← Session.found (.productNotFound id) (← find id)
    save { product with
      stock := stock.getD product.stock
      isActive := isActive.getD product.isActive }

end Product
end Storefront
