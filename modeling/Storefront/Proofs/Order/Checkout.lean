import Storefront.Proofs.Cart.Operations
import Storefront.Proofs.Lists
import Storefront.Service.Run

/-!
What a checkout does. It copies the address, takes the lines from stock one after the other and adds
an order with an item for each line; a cart that it was made from is emptied.
-/

namespace Storefront

open Session

variable {context : Context} {p p' : Progress}

namespace Order

/-- The prices of a product, the lowest identifier first. -/
def pricesIn (rows : List Price) (id : ProductId) : List Price :=
  sortBy (fun a b => a.id ≤ b.id) (rows.filter fun row => row.productId = id)

/-- Lines are priced and taken from stock, one after the other. -/
inductive Reserved (clock : Clock) (prices : List Price) :
    List LineRequest → List Product → List PricedLine → List Product → Prop
  | nil (rows : List Product) : Reserved clock prices [] rows [] rows
  | cons {request : LineRequest} {rest : List LineRequest} {product : Product} {line : PricedLine}
      {lines : List PricedLine} {rows after : List Product}
      (found : rows.find? (fun row => row.id = request.productId) = some product)
      (priced : priceLine product (pricesIn prices request.productId) request.quantity clock.wall =
        .ok line)
      (natural : 0 ≤ product.stock - request.quantity)
      (reserved : Reserved clock prices rest
        (Product.writeTo { product with stock := product.stock - request.quantity } clock.store
          rows) lines after) :
      Reserved clock prices (request :: rest) rows (line :: lines) after

/-- The lines of a checkout and the cart that they come from, which is not empty. -/
inductive Requested (t : Tables) (user : UserId) :
    Source → Option CartId → List LineRequest → Prop
  | cart {cart : Cart} {requests : List LineRequest}
      (found : t.carts.find? (fun row => row.userId = user) = some cart)
      (filled : t.cartItems.filter (fun item => item.cartId = cart.id) ≠ [])
      (summed : LineRequest.aggregate ((sortBy (fun a b => a.productId ≤ b.productId)
        (t.cartItems.filter fun item => item.cartId = cart.id)).map CartItem.request) =
          .ok requests) :
      Requested t user .cart (some cart.id) requests
  | items {lines requests : List LineRequest}
      (summed : LineRequest.aggregate lines = .ok requests) :
      Requested t user (.items lines) none requests

/-- What is asked for depends on the lines of no other cart. -/
theorem Requested.of_lines {t t' : Tables} {user : UserId} {source : Source} {cart : Option CartId}
    {requests : List LineRequest} (carts : t'.carts = t.carts)
    (kept : ∀ id, cart = some id → t'.cartItems.filter (fun item => item.cartId = id) =
      t.cartItems.filter fun item => item.cartId = id)
    (h : Requested t user source cart requests) : Requested t' user source cart requests := by
  cases h with
  | cart found filled summed =>
    rw [← carts] at found
    rw [← kept _ rfl] at filled summed
    exact .cart found filled summed
  | items summed => exact .items summed

theorem Requested.congr {t t' : Tables} {user : UserId} {source : Source} {cart : Option CartId}
    {requests : List LineRequest} (carts : t'.carts = t.carts) (items : t'.cartItems = t.cartItems)
    (h : Requested t user source cart requests) : Requested t' user source cart requests := by
  refine h.of_lines carts fun id _ => ?_
  rw [items]

/-- An order as it is placed. -/
def placed (clock : Clock) (id : OrderId) (user : UserId) (totals : OrderTotals)
    (address : AddressId) (method : PaymentMethod) : Order where
  id := id
  userId := user
  total := totals.total
  discount := totals.discount
  finalTotal := totals.finalTotal
  status := .pending
  shippingAddressId := some address
  paymentMethod := method
  paymentStatus := .pending
  paidAt := none
  createdAt := clock.store
  updatedAt := clock.store

/-- The lines of the carts without those of a cart that is emptied. -/
def emptied (cart : Option CartId) (rows : List CartItem) : List CartItem :=
  match cart with
  | none => rows
  | some id => rows.filter fun item => !decide (item.cartId = id)

/-- An order is placed over some lines, from a store with the given sequences. -/
structure Placed (clock : Clock) (user : UserId) (addressId : AddressId) (method : PaymentMethod)
    (source : Source) (store : Store) (address : Address) (cart : Option CartId)
    (requests : List LineRequest) (lines : List PricedLine) (order : Order) (t' : Tables) :
    Prop where
  address_found :
    store.tables.addresses.find? (fun row => row.id = addressId && row.userId = user) =
      some address
  requested : Requested store.tables user source cart requests
  order_eq : order = placed clock store.sequences.order user (OrderTotals.ofLines lines)
    store.sequences.orderAddress method
  order_storable : order.isStorable
  order_fresh : ∀ row ∈ store.tables.orders, row.id ≠ order.id
  copy_fresh : ∀ row ∈ store.tables.orderAddresses, row.id ≠ store.sequences.orderAddress
  items_storable : ∀ item ∈ OrderItem.ofLines order.id clock.store store.sequences.orderItem lines,
    item.isStorable { t' with orderItems := store.tables.orderItems }
  changed : ∃ products, Reserved clock store.tables.productPrices requests store.tables.products
      lines products ∧
    t' = { store.tables with
      products
      cartItems := emptied cart store.tables.cartItems
      orderAddresses := store.tables.orderAddresses ++
        [⟨store.sequences.orderAddress, address.destination, clock.store⟩]
      orders := store.tables.orders ++ [order.row]
      orderItems := store.tables.orderItems ++
        (OrderItem.ofLines order.id clock.store store.sequences.orderItem lines).map
          OrderItem.row }

end Order

@[simp] theorem Address.returns_findFor {user : UserId} {id : AddressId} {found : Option Address}
    (calm : p.fault = none) :
    Returns (findFor user id) context p found p' ↔
      found = p.tables.addresses.find? (fun row => row.id = id && row.userId = user) ∧ p' = p := by
  simp [findFor, calm, Table.addresses]

theorem OrderAddress.returns_create {destination : Destination} {copy : OrderAddress}
    (calm : p.fault = none) :
    Returns (create destination) context p copy p' ↔
      destination.isStorable ∧ Text.fitsSigned 32 p.sequences.orderAddress ∧
        (∀ row ∈ p.tables.orderAddresses, row.id ≠ p.sequences.orderAddress) ∧
        copy = ⟨p.sequences.orderAddress, destination, context.clock.store⟩ ∧
        p' = { p with
          sequences := { p.sequences with orderAddress := p.sequences.orderAddress + 1 }
          tables := { p.tables with orderAddresses := p.tables.orderAddresses ++
            [⟨p.sequences.orderAddress, destination, context.clock.store⟩] } } := by
  unfold create
  rw [returns_bind_storeTime]
  simp only [returns_bind, returns_sequences, Table.returns_insert calm, returns_pure, and_assoc,
    exists_and_left, exists_eq_left, exists_const, Bool.and_eq_true, List.all_eq_true,
    decide_eq_true_eq]
  rfl

namespace Product

@[simp] theorem returns_prices {id : ProductId} {prices : List Price} (calm : p.fault = none) :
    Returns (Product.prices id) context p prices p' ↔
      prices = Order.pricesIn p.tables.productPrices id ∧ p' = p := by
  simp only [Product.prices, returns_bind, Table.returns_select calm, returns_pure, and_assoc,
    exists_and_left, exists_eq_left]
  rfl

end Product

namespace Order

theorem returns_requestedLines {user : UserId} {source : Source} {cart : Option CartId}
    {requests : List LineRequest} (calm : p.fault = none) :
    Returns (requestedLines user source) context p (cart, requests) p' ↔
      Requested p.tables user source cart requests ∧ p' = p := by
  constructor
  · intro h
    cases source with
    | cart =>
      unfold requestedLines at h
      simp only [returns_bind, returns_found, returns_require, returns_ofExcept, returns_pure,
        and_assoc] at h
      obtain ⟨_, _, hfetch, filled, _, rfl, rfl, ⟨⟩, _, hfilled, rfl, lines, _, hsummed, rfl, hpair,
        rfl⟩ := h
      obtain ⟨rfl, rfl⟩ := Prod.mk.inj hpair
      obtain ⟨hfound, hitems, rfl⟩ := (Cart.returns_fetch calm).mp hfetch
      refine ⟨.cart hfound (fun hnone => ?_) (hitems ▸ hsummed), rfl⟩
      rw [hitems, hnone] at hfilled
      exact absurd hfilled (by decide)
    | items lines =>
      unfold requestedLines at h
      simp only [returns_bind, returns_ofExcept, returns_pure, and_assoc] at h
      obtain ⟨lines, _, hsummed, rfl, hpair, rfl⟩ := h
      obtain ⟨rfl, rfl⟩ := Prod.mk.inj hpair
      exact ⟨.items hsummed, rfl⟩
  · rintro ⟨h, rfl⟩
    cases h with
    | @cart cart _ hfound hfilled hsummed =>
      let filled : FilledCart := ⟨cart, sortBy (fun a b => a.productId ≤ b.productId)
        (p'.tables.cartItems.filter fun item => item.cartId = cart.id)⟩
      have hfetch : Returns (Cart.fetch user) context p' (some filled) p' :=
        (Cart.returns_fetch calm).mpr ⟨hfound, rfl, rfl⟩
      refine returns_bind.mpr ⟨some filled, p', hfetch, ?_⟩
      refine returns_bind.mpr ⟨_, p', returns_found.mpr ⟨rfl, rfl⟩, ?_⟩
      refine returns_bind.mpr
        ⟨⟨⟩, p', returns_require.mpr ⟨?_, rfl⟩, returns_bind.mpr ⟨requests, p',
        returns_ofExcept.mpr ⟨hsummed, rfl⟩, returns_pure.mpr ⟨rfl, rfl⟩⟩⟩
      rw [Bool.not_eq_true', List.isEmpty_eq_false_iff]
      exact fun hnone => hfilled (sortBy_eq_nil.mp hnone)
    | items hsummed =>
      exact returns_bind.mpr ⟨requests, p', returns_ofExcept.mpr ⟨hsummed, rfl⟩,
        returns_pure.mpr ⟨rfl, rfl⟩⟩

theorem returns_create {user : UserId} {totals : OrderTotals} {address : AddressId}
    {method : PaymentMethod} {order : Order} (calm : p.fault = none) :
    Returns (create user totals address method) context p order p' ↔
      (placed context.clock p.sequences.order user totals address method).isStorable ∧
        Text.fitsSigned 32 p.sequences.order ∧
        (∀ row ∈ p.tables.orders, row.id ≠ p.sequences.order) ∧
        (∃ row ∈ p.tables.orderAddresses, row.id = address) ∧
        order = placed context.clock p.sequences.order user totals address method ∧
        p' = { p with
          sequences := { p.sequences with order := p.sequences.order + 1 }
          tables := { p.tables with orders := p.tables.orders ++
            [(placed context.clock p.sequences.order user totals address method).row] } } := by
  unfold create
  rw [returns_bind_storeTime]
  simp only [returns_bind, returns_sequences, Table.returns_insert calm, returns_pure, and_assoc,
    exists_and_left, exists_eq_left, exists_const, Bool.and_eq_true, List.all_eq_true,
    List.any_eq_true, decide_eq_true_eq]
  rfl

theorem returns_createAll {order : OrderId} {lines : List PricedLine} {u : Unit}
    (calm : p.fault = none) :
    Returns (OrderItem.createAll order lines) context p u p' ↔
      (∀ item ∈ OrderItem.ofLines order context.clock.store p.sequences.orderItem lines,
          item.isStorable p.tables) ∧
        p' = { p with
          sequences := { p.sequences with
            orderItem := p.sequences.orderItem +
              (OrderItem.ofLines order context.clock.store p.sequences.orderItem lines).length }
          tables := { p.tables with
            orderItems := p.tables.orderItems ++
              (OrderItem.ofLines order context.clock.store p.sequences.orderItem lines).map
                OrderItem.row } } := by
  unfold OrderItem.createAll
  rw [returns_bind_storeTime]
  simp only [returns_bind, returns_sequences, Table.returns_insert calm, and_assoc,
    exists_and_left, exists_eq_left, List.all_eq_true]
  rfl

theorem returns_reserve {request : LineRequest} {line : PricedLine} (calm : p.fault = none) :
    Returns (reserve context.clock.wall request) context p line p' ↔
      ∃ product, p.tables.products.find? (fun row => row.id = request.productId) = some product ∧
        priceLine product (pricesIn p.tables.productPrices request.productId) request.quantity
          context.clock.wall = .ok line ∧
        0 ≤ product.stock - request.quantity ∧
        p' = { p with tables := { p.tables with
          products := Product.writeTo { product with stock := product.stock - request.quantity }
            context.clock.store p.tables.products } } := by
  unfold reserve
  simp only [returns_bind, Product.returns_find calm, returns_found, Product.returns_prices calm,
    returns_ofExcept, returns_discard, returns_pure, and_assoc, exists_and_left,
    exists_eq_left]
  constructor
  · rintro ⟨product, hproduct, priced, hpriced, ⟨⟩, last, ⟨saved, hsave⟩, rfl, rfl⟩
    obtain ⟨row, -, hnatural, -, rfl⟩ := (Product.returns_save calm).mp hsave
    exact ⟨product, hproduct, hpriced, hnatural, rfl⟩
  · rintro ⟨product, hproduct, hpriced, hnatural, rfl⟩
    have hstored := hproduct
    rw [← (mem_of_find?_key hproduct).2] at hstored
    exact ⟨product, hproduct, line, hpriced, ⟨⟩, _,
      ⟨_, (Product.returns_save calm).mpr ⟨product, hstored, hnatural, rfl, rfl⟩⟩, rfl, rfl⟩

theorem returns_clear {cart : Option CartId} {u : Unit} (calm : p.fault = none) :
    Returns (cart.forM Cart.clear) context p u p' ↔
      p' = { p with
        tables := { p.tables with cartItems := emptied cart p.tables.cartItems } } := by
  cases cart with
  | none => exact returns_pure.trans (and_iff_right rfl)
  | some id => exact Cart.returns_clear calm

/-- Reserving lines one after the other changes the products alone. -/
theorem returns_mapM_reserve {requests : List LineRequest} {lines : List PricedLine}
    (calm : p.fault = none) :
    Returns (requests.mapM (reserve context.clock.wall)) context p lines p' ↔
      ∃ products, Reserved context.clock p.tables.productPrices requests p.tables.products lines
          products ∧
        p' = { p with tables := { p.tables with products } } := by
  constructor
  · intro h
    induction requests generalizing p lines with
    | nil =>
      obtain ⟨rfl, rfl⟩ := returns_mapM_nil.mp h
      exact ⟨_, .nil _, rfl⟩
    | cons request rest ih =>
      obtain ⟨line, middle, lines, hone, hrest, rfl⟩ := returns_mapM_cons.mp h
      obtain ⟨product, hproduct, hpriced, hnatural, rfl⟩ := (returns_reserve calm).mp hone
      obtain ⟨products, hproducts, rfl⟩ := ih (by exact calm) hrest
      exact ⟨products, .cons hproduct hpriced hnatural hproducts, rfl⟩
  · rintro ⟨products, hreserved, rfl⟩
    induction requests generalizing p lines with
    | nil =>
      cases hreserved with
      | nil => exact returns_mapM_nil.mpr ⟨rfl, rfl⟩
    | cons request rest ih =>
      cases hreserved with
      | cons found priced natural reserved =>
        exact returns_mapM_cons.mpr ⟨_, _, _,
          (returns_reserve calm).mpr ⟨_, found, priced, natural, rfl⟩,
          ih (by exact calm) reserved, rfl⟩

theorem placed_of_returns {user : UserId} {addressId : AddressId} {method : PaymentMethod}
    {source : Source} {answer : Order} (calm : p.fault = none)
    (h : Returns (checkOut user addressId method source) context p answer p') :
    ∃ address cart requests lines,
      Placed context.clock user addressId method source p.store address cart requests lines answer
        p'.tables := by
  unfold checkOut at h
  simp only [returns_transaction, returns_bind, Address.returns_findFor calm, returns_found,
    returns_wallTime, returns_pure, and_assoc, exists_and_left, exists_eq_left] at h
  obtain ⟨address, haddress, copy, copied, hcopy, requested, asked, hrequested, lines, taken,
    hlines, order, created, hcreate, ⟨⟩, added, hitems, ⟨⟩, cleared, hclear, rfl, rfl⟩ := h
  obtain ⟨-, -, hcopyFresh, rfl, rfl⟩ := (OrderAddress.returns_create calm).mp hcopy
  obtain ⟨hasked, rfl⟩ := (returns_requestedLines (by exact calm)).mp hrequested
  obtain ⟨products, hproducts, rfl⟩ := (returns_mapM_reserve (by exact calm)).mp hlines
  obtain ⟨hstorable, -, hfresh, -, rfl, rfl⟩ := (returns_create (by exact calm)).mp hcreate
  obtain ⟨hadmitted, rfl⟩ := (returns_createAll (by exact calm)).mp hitems
  obtain rfl := (returns_clear (by exact calm)).mp hclear
  exact ⟨address, requested.1, requested.2, lines, haddress, hasked.congr (by rfl) (by rfl), rfl,
    hstorable, hfresh, hcopyFresh, hadmitted, products, hproducts, rfl⟩

end Order
end Storefront
