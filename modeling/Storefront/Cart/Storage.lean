import Storefront.Sorting
import Storefront.Store.Table
import Storefront.Text.Digits

/-!
Carts in the store.
-/

namespace Storefront.Cart

/-- The lines of a cart, by product. -/
def lines (id : CartId) : Session (List CartItem) := do
  return sortBy (fun a b => a.productId ≤ b.productId)
    (← Table.cartItems.select fun item => item.cartId = id)

def findFor (user : UserId) : Session (Option Cart) :=
  Table.carts.selectFirst fun cart => cart.userId = user

/-- Creates an empty cart for a user who has none. -/
def create (user : UserId) : Session Cart := do
  let now ← Session.storeTime
  let id := (← Session.sequences).cart
  let cart : Cart := ⟨id, user, now, now⟩
  Table.carts.insert
    (fun t => Text.fitsSigned 32 id && t.carts.all fun row => row.id ≠ id && row.userId ≠ user)
    [cart] (fun s => { s with cart := s.cart + 1 })
  return cart

/-- A user's cart with its lines, if there is one. -/
def fetch (user : UserId) : Session (Option FilledCart) := do
  match ← findFor user with
  | none => return none
  | some cart => return some ⟨cart, ← lines cart.id⟩

/-- A user's cart; one that does not exist yet is created. -/
def findOrCreate (user : UserId) : Session Cart := do
  match ← findFor user with
  | some cart => return cart
  | none => create user

/-- A user's cart with its lines; one that does not exist yet is created. -/
def fetchOrCreate (user : UserId) : Session FilledCart := do
  let cart ← findOrCreate user
  return ⟨cart, ← lines cart.id⟩

/-- Adds a line for a product, or sets the quantity of the one that is there. -/
def putLine (id : CartId) (request : LineRequest) : Session Unit := do
  let now ← Session.storeTime
  Session.statement .insert .cartItems
  let tables ← Session.tables
  Session.constraint (0 < request.quantity && tables.carts.any (fun row => row.id = id) &&
    tables.products.any (fun row => row.id = request.productId))
  let isLine (item : CartItem) : Bool := item.cartId = id && item.productId = request.productId
  Session.modifyTables <| Table.cartItems.modifyRows fun rows =>
    if rows.any isLine then
      updateWhere isLine (fun row => { row with quantity := request.quantity, updatedAt := now })
        rows
    else rows ++ [⟨id, request.productId, request.quantity, now, now⟩]

/-- Marks a cart as changed. -/
def touch (id : CartId) : Session Unit := do
  let now ← Session.storeTime
  Session.statement .update .carts
  Session.modifyTables <| Table.carts.modifyRows <|
    updateWhere (fun cart => cart.id = id) fun cart => { cart with updatedAt := now }

/-- Makes the requests the only lines of a cart. -/
def replaceLines (id : CartId) (requests : List LineRequest) : Session (List CartItem) := do
  Table.cartItems.delete fun item =>
    item.cartId = id && requests.all fun request => request.productId ≠ item.productId
  requests.forM (putLine id)
  touch id
  lines id

def clear (id : CartId) : Session Unit :=
  Table.cartItems.delete fun item => item.cartId = id

end Storefront.Cart
