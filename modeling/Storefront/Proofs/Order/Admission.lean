import Storefront.Proofs.Cart.Lines
import Storefront.Proofs.Catalog.Balance
import Storefront.Proofs.Order.Reading

/-!
What it takes to place an order. A checkout copies the address, finds out which lines are asked for,
writes the order over them and empties the cart. It succeeds if and only if the address and the
lines are there, stock and columns hold what is asked for, and the identifiers that it takes are
free.
-/

namespace Storefront

/-- The next `count` identifiers fit their column, and no row has them. -/
def FreeIn (ids : List Int) (next : Int) (count : Nat) : Prop :=
  ∀ id, next ≤ id → id < next + count → Text.fitsSigned 32 id ∧ id ∉ ids

/-- The identifiers of one more order over so many lines are free. -/
structure Store.HasRoom (store : Store) (count : Nat) : Prop where
  copy : FreeIn (store.tables.orderAddresses.map (·.id)) store.sequences.orderAddress 1
  order : FreeIn (store.tables.orders.map (·.id)) store.sequences.order 1
  items : FreeIn (store.tables.orderItems.map (·.id)) store.sequences.orderItem count

/-- The columns of an item can hold what the line says. -/
def PricedLine.isStorable (line : PricedLine) : Bool :=
  fitsText line.productName && fitsVarchar 16 line.priceType && decide (0 < line.quantity) &&
    fitsNumeric 12 line.price && fitsNumeric 12 line.discountAmount &&
    fitsNumeric 12 line.finalPrice && fitsNumeric 12 line.subtotal

/-- The columns of an order can hold the sums. -/
def OrderTotals.isStorable (totals : OrderTotals) : Bool :=
  fitsNumeric 12 totals.total && fitsNumeric 12 totals.discount && fitsNumeric 12 totals.finalTotal

namespace FreeIn

variable {ids : List Int} {next : Int} {m n : Nat}

theorem zero (ids : List Int) (next : Int) : FreeIn ids next 0 := by
  intro id hle hlt
  omega

theorem one_iff : FreeIn ids next 1 ↔ Text.fitsSigned 32 next ∧ next ∉ ids := by
  constructor
  · intro h
    exact h next (Int.le_refl next) (by omega)
  · intro h id hle hlt
    obtain rfl : id = next := by omega
    exact h

theorem succ_iff : FreeIn ids next (n + 1) ↔ FreeIn ids next 1 ∧ FreeIn ids (next + 1) n := by
  constructor
  · intro h
    exact ⟨fun id hle hlt => h id hle (by omega), fun id hle hlt => h id (by omega) (by omega)⟩
  · rintro ⟨hfirst, hrest⟩ id hle hlt
    by_cases heq : id = next
    · exact hfirst id hle (by omega)
    · exact hrest id (by omega) (by omega)

end FreeIn

/-- What an accepted checkout finds: an address that can be copied, lines that can be taken from
stock, and sums that can be stored. -/
structure Order.Admitted (clock : Clock) (user : UserId) (addressId : AddressId) (source : Source)
    (t : Tables) (address : Address) (cart : Option CartId) (requests : List LineRequest)
    (lines : List PricedLine) (products : List Product) : Prop where
  address_found :
    t.addresses.find? (fun row => row.id = addressId && row.userId = user) = some address
  destination_storable : address.destination.isStorable
  requested : Requested t user source cart requests
  reserved : Reserved clock t.productPrices requests t.products lines products
  totals_storable : (OrderTotals.ofLines lines).isStorable
  lines_storable : ∀ line ∈ lines, line.isStorable

/-- The copy of an address that the next order gets. -/
def Store.nextCopy (store : Store) (clock : Clock) (address : Address) : OrderAddress :=
  ⟨store.sequences.orderAddress, address.destination, clock.store⟩

/-- The order that a checkout adds to a store. -/
def Store.nextOrder (store : Store) (clock : Clock) (user : UserId) (method : PaymentMethod)
    (lines : List PricedLine) : Order :=
  .placed clock store.sequences.order user (.ofLines lines) store.sequences.orderAddress method

/-- The items that a checkout adds to a store. -/
def Store.nextItems (store : Store) (clock : Clock) (lines : List PricedLine) : List OrderItem :=
  OrderItem.ofLines store.sequences.order clock.store store.sequences.orderItem lines

/-- The store once an order is placed in it. -/
def Store.withOrder (store : Store) (clock : Clock) (user : UserId) (method : PaymentMethod)
    (address : Address) (cart : Option CartId) (lines : List PricedLine) (products : List Product) :
    Store where
  tables := { store.tables with
    products
    cartItems := Order.emptied cart store.tables.cartItems
    orderAddresses := store.tables.orderAddresses ++ [store.nextCopy clock address]
    orders := store.tables.orders ++ [(store.nextOrder clock user method lines).row]
    orderItems := store.tables.orderItems ++ (store.nextItems clock lines).map OrderItem.row }
  sequences := { store.sequences with
    orderAddress := store.sequences.orderAddress + 1
    order := store.sequences.order + 1
    orderItem := store.sequences.orderItem + lines.length }

/-- The progress with other tables and sequences. -/
def Progress.at (p : Progress) (store : Store) : Progress :=
  { p with tables := store.tables, sequences := store.sequences }

/-- The progress with the lines of a cart removed. -/
def Progress.emptied (cart : Option CartId) (p : Progress) : Progress :=
  { p with tables := { p.tables with cartItems := Order.emptied cart p.tables.cartItems } }

namespace OrderItem

variable {order : OrderId} {now : Instant} {t : Tables}

/-- The line that an item stands for. -/
def line (item : OrderItem) : PricedLine where
  productId := item.productId
  productName := item.productName
  priceType := item.priceType
  quantity := item.quantity
  price := item.price
  discountAmount := item.discountAmount
  finalPrice := item.finalPrice
  subtotal := item.subtotal

theorem isStorable_iff {item : OrderItem} :
    item.isStorable t ↔ (∃ row ∈ t.orders, row.id = item.orderId) ∧
      item.productId ∈ t.products.map (·.id) ∧ item.line.isStorable ∧
      FreeIn (t.orderItems.map (·.id)) item.id 1 := by
  simp only [isStorable, PricedLine.isStorable, FreeIn.one_iff, Bool.and_eq_true,
    List.any_eq_true, List.all_eq_true, decide_eq_true_eq, List.mem_map, not_exists, not_and,
    and_assoc]
  rfl

/-- The items of a new order can be stored if its lines can and the identifiers are free. -/
theorem isStorable_ofLines {lines : List PricedLine} {first : ItemId}
    (hasOrder : ∃ row ∈ t.orders, row.id = order)
    (hasProducts : ∀ line ∈ lines, line.productId ∈ t.products.map (·.id)) :
    (∀ item ∈ ofLines order now first lines, item.isStorable t) ↔
      (∀ line ∈ lines, line.isStorable) ∧
        FreeIn (t.orderItems.map (·.id)) first lines.length := by
  induction lines generalizing first with
  | nil => simp [ofLines, FreeIn.zero]
  | cons line rest ih =>
    obtain ⟨hline, hrest⟩ := List.forall_mem_cons.mp hasProducts
    have hone : (ofLine order now first line).isStorable t ↔
        line.isStorable ∧ FreeIn (t.orderItems.map (·.id)) first 1 :=
      isStorable_iff.trans ((and_iff_right hasOrder).trans (and_iff_right hline))
    rw [ofLines, List.forall_mem_cons, List.forall_mem_cons, hone, ih hrest, List.length_cons,
      FreeIn.succ_iff (n := rest.length), and_and_and_comm]

@[simp] theorem length_ofLines (lines : List PricedLine) (first : ItemId) :
    (ofLines order now first lines).length = lines.length := by
  induction lines generalizing first with
  | nil => rfl
  | cons line rest ih => rw [ofLines, List.length_cons, List.length_cons, ih]

end OrderItem

open Session

variable {scope : Scope} {context : Context} {p p' : Progress} {user : UserId}
  {addressId : AddressId} {method : PaymentMethod} {source : Order.Source}
  {requests : List LineRequest} {lines : List PricedLine}

namespace Order

/-- Copies an address of the user's for an order. -/
def copyAddress (user : UserId) (id : AddressId) : Session OrderAddress := do
  let address ← Session.found .addressNotFound (← Address.findFor user id)
  OrderAddress.create address.destination

/-- Takes lines from stock and writes an order over them. -/
def write (user : UserId) (copy : AddressId) (method : PaymentMethod)
    (requests : List LineRequest) : Session Order := do
  let now ← Session.wallTime
  let lines ← requests.mapM (reserve now)
  let order ← create user (OrderTotals.ofLines lines) copy method
  OrderItem.createAll order.id lines
  return order

theorem checkOut_eq (user : UserId) (addressId : AddressId) (method : PaymentMethod)
    (source : Source) :
    checkOut user addressId method source = transaction do
      let copy ← copyAddress user addressId
      let requested ← requestedLines user source
      let order ← write user copy.id method requested.2
      requested.1.forM Cart.clear
      return order := by
  simp only [checkOut, copyAddress, write, bind_assoc, pure_bind]

instance (user : UserId) (id : AddressId) [scope.Covers .writing] :
    Within scope (copyAddress user id) := by
  unfold copyAddress
  infer_instance

instance (user : UserId) (copy : AddressId) (method : PaymentMethod) (requests : List LineRequest)
    [scope.Covers .writing] : Within scope (write user copy method requests) := by
  unfold write
  infer_instance

theorem returns_copyAddress {copy : OrderAddress} (calm : p.fault = none) :
    Returns (copyAddress user addressId) context p copy p' ↔
      ∃ address,
        p.tables.addresses.find? (fun row => row.id = addressId && row.userId = user) =
          some address ∧
        address.destination.isStorable ∧
        FreeIn (p.tables.orderAddresses.map (·.id)) p.sequences.orderAddress 1 ∧
        copy = p.store.nextCopy context.clock address ∧
        p' = { p with
          tables := { p.tables with orderAddresses :=
            p.tables.orderAddresses ++ [p.store.nextCopy context.clock address] }
          sequences := { p.sequences with orderAddress := p.sequences.orderAddress + 1 } } := by
  simp only [copyAddress, returns_bind, Address.returns_findFor calm, returns_found, and_assoc,
    exists_and_left, exists_eq_left, OrderAddress.returns_create calm, FreeIn.one_iff, List.mem_map,
    not_exists, not_and]
  rfl

theorem Reserved.productId_mem {clock : Clock} {prices : List Price} {rows after : List Product}
    (h : Reserved clock prices requests rows lines after) :
    ∀ line ∈ lines, line.productId ∈ after.map (·.id) := by
  induction h with
  | nil rows => simp
  | @cons _ _ product line _ rows _ found priced natural reserved ih =>
    refine List.forall_mem_cons.mpr ⟨?_, ih⟩
    obtain ⟨-, hid, -⟩ := exact_of_priceLine priced
    rw [reserved.ids_eq, Product.ids_writeTo, hid]
    exact List.mem_map_of_mem (mem_of_find?_key found).1

/-- Once the order is there and its lines are reserved, the items can be added if their lines can be
stored under free identifiers. -/
theorem isStorable_itemsOf {clock : Clock} {prices : List Price} {products : List Product}
    {t : Tables} (h : Reserved clock prices requests t.products lines products) (order : Order)
    (now : Instant) (first : ItemId) :
    (∀ item ∈ OrderItem.ofLines order.id now first lines,
        item.isStorable { t with products, orders := t.orders ++ [order.row] }) ↔
      (∀ line ∈ lines, line.isStorable) ∧
        FreeIn (t.orderItems.map (·.id)) first lines.length :=
  OrderItem.isStorable_ofLines
    ⟨order.row, List.mem_append_right _ (List.mem_singleton_self _), rfl⟩ h.productId_mem

/-- What is written once the address is copied. -/
theorem returns_write {copy : AddressId} {order : Order} (calm : p.fault = none)
    (copied : ∃ row ∈ p.tables.orderAddresses, row.id = copy) :
    Returns (write user copy method requests) context p order p' ↔
      ∃ lines products,
        Reserved context.clock p.tables.productPrices requests p.tables.products lines products ∧
        (OrderTotals.ofLines lines).isStorable ∧
        FreeIn (p.tables.orders.map (·.id)) p.sequences.order 1 ∧
        (∀ line ∈ lines, line.isStorable) ∧
        FreeIn (p.tables.orderItems.map (·.id)) p.sequences.orderItem lines.length ∧
        order = placed context.clock p.sequences.order user (.ofLines lines) copy method ∧
        p' = { p with
          tables := { p.tables with
            products
            orders := p.tables.orders ++ [order.row]
            orderItems := p.tables.orderItems ++
              (OrderItem.ofLines order.id context.clock.store p.sequences.orderItem lines).map
                OrderItem.row }
          sequences := { p.sequences with
            order := p.sequences.order + 1
            orderItem := p.sequences.orderItem + lines.length } } := by
  unfold write
  rw [returns_bind_wallTime]
  constructor
  · intro h
    obtain ⟨lines, taken, hlines, h⟩ := returns_bind.mp h
    obtain ⟨made, created, hcreate, h⟩ := returns_bind.mp h
    obtain ⟨⟨⟩, added, hitems, h⟩ := returns_bind.mp h
    obtain ⟨rfl, rfl⟩ := returns_pure.mp h
    obtain ⟨products, hreserved, rfl⟩ := (returns_mapM_reserve calm).mp hlines
    obtain ⟨htotals, hfits, hfresh, -, rfl, rfl⟩ := (returns_create (by exact calm)).mp hcreate
    obtain ⟨hstorable, rfl⟩ := (returns_createAll (by exact calm)).mp hitems
    obtain ⟨hlines, hfree⟩ := (isStorable_itemsOf hreserved _ _ _).mp hstorable
    refine ⟨lines, products, hreserved, htotals, FreeIn.one_iff.mpr ⟨hfits, ?_⟩, hlines, hfree, rfl,
      ?_⟩
    · simpa using hfresh
    · rw [OrderItem.length_ofLines]
  · rintro ⟨lines, products, hreserved, htotals, hroom, hlines, hfree, rfl, rfl⟩
    obtain ⟨hfits, hfresh⟩ := FreeIn.one_iff.mp hroom
    have hitems := fun order now =>
      (isStorable_itemsOf hreserved order now p.sequences.orderItem).mpr ⟨hlines, hfree⟩
    refine returns_bind.mpr
      ⟨lines, _, (returns_mapM_reserve calm).mpr ⟨products, hreserved, rfl⟩, ?_⟩
    refine returns_bind.mpr ⟨_, _, (returns_create (by exact calm)).mpr
      ⟨htotals, hfits, by simpa using hfresh, copied, rfl, rfl⟩, ?_⟩
    refine returns_bind.mpr ⟨⟨⟩, _, (returns_createAll (by exact calm)).mpr ⟨hitems _ _, rfl⟩, ?_⟩
    refine returns_pure.mpr ⟨rfl, ?_⟩
    rw [OrderItem.length_ofLines]

/-- A checkout is committed if and only if it is admitted and the store has room for the order. -/
theorem returns_checkOut {order : Order} (calm : p.fault = none) :
    Returns (checkOut user addressId method source) context p order p' ↔
      ∃ address cart requests lines products,
        Admitted context.clock user addressId source p.tables address cart requests lines
          products ∧
        p.store.HasRoom lines.length ∧
        order = p.store.nextOrder context.clock user method lines ∧
        p' = p.at (p.store.withOrder context.clock user method address cart lines products) := by
  rw [checkOut_eq, returns_transaction]
  have hcopied : ∀ copy : OrderAddress,
      ∃ row ∈ p.tables.orderAddresses ++ [copy], row.id = copy.id :=
    fun copy => ⟨copy, List.mem_append_right _ (List.mem_singleton_self _), rfl⟩
  constructor
  · intro h
    obtain ⟨copy, copied, hcopy, h⟩ := returns_bind.mp h
    obtain ⟨⟨cart, requests⟩, asked, hrequested, h⟩ := returns_bind.mp h
    obtain ⟨made, written, hwrite, h⟩ := returns_bind.mp h
    obtain ⟨⟨⟩, cleared, hclear, h⟩ := returns_bind.mp h
    obtain ⟨rfl, rfl⟩ := returns_pure.mp h
    obtain ⟨address, haddress, hdestination, hroom, rfl, rfl⟩ := (returns_copyAddress calm).mp hcopy
    obtain ⟨hasked, rfl⟩ := (returns_requestedLines (by exact calm)).mp hrequested
    obtain ⟨lines, products, hreserved, htotals, horder, hlines, hitems, rfl, rfl⟩ :=
      (returns_write (by exact calm) (hcopied _)).mp hwrite
    obtain rfl := (returns_clear (by exact calm)).mp hclear
    exact ⟨address, cart, requests, lines, products,
      ⟨haddress, hdestination, hasked.congr (by rfl) (by rfl), hreserved, htotals, hlines⟩,
      ⟨hroom, horder, hitems⟩, rfl, rfl⟩
  · rintro ⟨address, cart, requests, lines, products, hadmitted, hroom, rfl, rfl⟩
    refine returns_bind.mpr ⟨_, _, (returns_copyAddress calm).mpr ⟨address, hadmitted.address_found,
      hadmitted.destination_storable, hroom.copy, rfl, rfl⟩, ?_⟩
    refine returns_bind.mpr ⟨(cart, requests), _, (returns_requestedLines (by exact calm)).mpr
      ⟨hadmitted.requested.congr (by rfl) (by rfl), rfl⟩, ?_⟩
    refine returns_bind.mpr ⟨_, _, (returns_write (by exact calm) (hcopied _)).mpr
      ⟨lines, products, hadmitted.reserved, hadmitted.totals_storable, hroom.order,
        hadmitted.lines_storable, hroom.items, rfl, rfl⟩, ?_⟩
    exact returns_bind.mpr ⟨⟨⟩, _, (returns_clear (by exact calm)).mpr rfl,
      returns_pure.mpr ⟨rfl, rfl⟩⟩

/-- The lines of a checkout are asked for once the address is copied, and its cart is emptied once
the order is written; neither makes any other difference. -/
theorem exec_checkOut {cart : Option CartId} (context : Context) (addressId : AddressId)
    (method : PaymentMethod) (calm : p.fault = none)
    (h : Requested p.tables user source cart requests) :
    (checkOut user addressId method source).exec context p =
      match (transaction do
          let copy ← copyAddress user addressId
          write user copy.id method requests).exec context p with
      | (.ok order, after) => (.ok order, after.emptied cart)
      | (.error cause, after) => (.error cause, after) := by
  rw [checkOut_eq, exec_transaction, exec_transaction, exec_bind, exec_bind]
  rcases hcopy : (copyAddress user addressId).exec context p with ⟨cause | copy, copied⟩
  · rfl
  · have calm' : copied.fault = none := Returns.fault_eq_none hcopy calm
    have hasked : Returns (requestedLines user source) context copied (cart, requests) copied := by
      obtain ⟨address, -, -, -, -, rfl⟩ := (returns_copyAddress calm).mp hcopy
      exact (returns_requestedLines calm').mpr ⟨h.congr (by rfl) (by rfl), rfl⟩
    dsimp only
    rw [exec_bind, hasked]
    dsimp only
    rw [exec_bind]
    rcases hwrite : (write user copy.id method requests).exec context copied with
      ⟨cause | order, written⟩
    · rfl
    · have hclear : Returns (cart.forM Cart.clear) context written ⟨⟩ (written.emptied cart) :=
        (returns_clear (Returns.fault_eq_none hwrite calm')).mpr rfl
      dsimp only
      rw [exec_bind, hclear]
      rfl

end Order
end Storefront
