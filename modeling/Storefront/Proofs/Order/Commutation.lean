import Storefront.Proofs.Catalog.Reservations
import Storefront.Proofs.Order.Sources

/-!
Checkouts commute. Of two checkouts that do not take the same cart, either may be made first: both
succeed, and apart from identifiers and times they leave the same behind.
-/

namespace Storefront

/-- The next identifiers, so many of them. -/
def idsFrom (next : Int) : Nat → List Int
  | 0 => []
  | count + 1 => next :: idsFrom (next + 1) count

/-- What a checkout adds to a store: an order, its items and the copy of its address. -/
structure Placement where
  copy : OrderAddress
  order : OrderRow
  items : List ItemRow
  copied : order.shippingAddressId = some copy.id
  owned : ∀ item ∈ items, item.orderId = order.id

/-- The placement without its identifiers and the times at which it was made. -/
def Placement.unnumbered (made : Placement) : Placement where
  copy := { made.copy with id := 0, createdAt := ⟨0, 0⟩ }
  order := { made.order with
    id := 0
    shippingAddressId := some 0
    createdAt := ⟨0, 0⟩
    updatedAt := ⟨0, 0⟩ }
  items := made.items.map fun item =>
    { item with id := 0, orderId := 0, createdAt := ⟨0, 0⟩, updatedAt := ⟨0, 0⟩ }
  copied := rfl
  owned := List.forall_mem_map.mpr fun _ _ => rfl

/-- The placement that a checkout adds to a store. -/
def Store.nextPlacement (store : Store) (clock : Clock) (user : UserId) (method : PaymentMethod)
    (address : Address) (lines : List PricedLine) : Placement where
  copy := store.nextCopy clock address
  order := (store.nextOrder clock user method lines).row
  items := (store.nextItems clock lines).map OrderItem.row
  copied := rfl
  owned := List.forall_mem_map.mpr fun _ hitem => OrderItem.orderId_ofLines hitem

/-- The tables apart from what was placed, and from the times at which products were changed. -/
def Tables.apartFromOrders (t : Tables) : Tables :=
  { t with
    products := t.products.map Product.unmarked
    orders := []
    orderItems := []
    orderAddresses := [] }

/-- The step succeeds and adds a placement to a store. -/
structure Step.Places (currency : String) (step : Step) (store : Store) (made : Placement) :
    Prop where
  succeeds : (step.run currency store).answer.isError = false
  orders_eq : (step.run currency store).store.tables.orders = store.tables.orders ++ [made.order]
  orderItems_eq :
    (step.run currency store).store.tables.orderItems = store.tables.orderItems ++ made.items
  orderAddresses_eq : (step.run currency store).store.tables.orderAddresses =
    store.tables.orderAddresses ++ [made.copy]

/-- Two steps perform one operation without a fault, while the same offers are open. -/
structure Step.Repeats (rows : List Product) (step again : Step) : Prop where
  operation_eq : again.operation? = step.operation?
  calm : step.fault = none
  calm_again : again.fault = none
  offers : Product.SameOffers rows step.clock.wall again.clock.wall

/-- The steps do not check out one cart. -/
def Step.TakeOtherCarts (step other : Step) : Prop :=
  ∀ user address method address' method',
    step.operation? = some (.placeFromCart user address method) →
      other.operation? ≠ some (.placeFromCart user address' method')

theorem mem_idsFrom {next id : Int} {count : Nat} :
    id ∈ idsFrom next count ↔ next ≤ id ∧ id < next + count := by
  induction count generalizing next with
  | zero =>
    simp only [idsFrom, List.not_mem_nil, false_iff]
    omega
  | succ count ih =>
    rw [idsFrom, List.mem_cons, ih]
    omega

/-- Identifiers are free for two if they are for the first, and then for the second. -/
theorem FreeIn.add_iff {ids : List Int} {next : Int} {m n : Nat} :
    FreeIn ids next (m + n) ↔
      FreeIn ids next m ∧ FreeIn (ids ++ idsFrom next m) (next + m) n := by
  simp only [FreeIn, List.mem_append, mem_idsFrom, not_or]
  constructor
  · intro h
    refine ⟨fun id hle hlt => h id hle (by omega), fun id hle hlt => ?_⟩
    obtain ⟨hfits, hnew⟩ := h id (by omega) (by omega)
    exact ⟨hfits, hnew, by omega⟩
  · rintro ⟨hfirst, hrest⟩ id hle hlt
    by_cases hid : id < next + m
    · exact hfirst id hle hid
    · obtain ⟨hfits, hnew, -⟩ := hrest id (by omega) (by omega)
      exact ⟨hfits, hnew⟩

namespace OrderItem

variable {order : OrderId} {now : Instant}

/-- The items of a new order take the next identifiers. -/
theorem map_id_ofLines (first : ItemId) (lines : List PricedLine) :
    (ofLines order now first lines).map (·.id) = idsFrom first lines.length := by
  induction lines generalizing first with
  | nil => rfl
  | cons line rest ih =>
    rw [ofLines, List.map_cons, ih, List.length_cons, idsFrom]
    rfl

end OrderItem

namespace Store

variable {store : Store} {clock : Clock} {user : UserId} {method : PaymentMethod}
  {address : Address} {cart : Option CartId} {lines : List PricedLine} {products : List Product}

/-- A store that an order is placed in has room for the next one if identifiers are free after those
that the order took. -/
theorem hasRoom_withOrder_iff {count : Nat} :
    (store.withOrder clock user method address cart lines products).HasRoom count ↔
      FreeIn (store.tables.orderAddresses.map (·.id) ++ idsFrom store.sequences.orderAddress 1)
          (store.sequences.orderAddress + 1) 1 ∧
        FreeIn (store.tables.orders.map (·.id) ++ idsFrom store.sequences.order 1)
          (store.sequences.order + 1) 1 ∧
        FreeIn (store.tables.orderItems.map (·.id) ++
            idsFrom store.sequences.orderItem lines.length)
          (store.sequences.orderItem + lines.length) count := by
  have hnew : ((store.nextItems clock lines).map OrderItem.row).map (·.id) =
      idsFrom store.sequences.orderItem lines.length :=
    List.map_map.trans (OrderItem.map_id_ofLines _ _)
  have hcopies : (store.withOrder clock user method address cart lines
      products).tables.orderAddresses.map (·.id) = store.tables.orderAddresses.map (·.id) ++
        idsFrom store.sequences.orderAddress 1 := List.map_append
  have horders : (store.withOrder clock user method address cart lines
      products).tables.orders.map (·.id) = store.tables.orders.map (·.id) ++
        idsFrom store.sequences.order 1 := List.map_append
  have hitems : (store.withOrder clock user method address cart lines
      products).tables.orderItems.map (·.id) = store.tables.orderItems.map (·.id) ++
        idsFrom store.sequences.orderItem lines.length := by
    rw [← hnew]
    exact List.map_append
  rw [← hcopies, ← horders, ← hitems]
  constructor
  · rintro ⟨hcopy, horder, hfree⟩
    exact ⟨hcopy, horder, hfree⟩
  · rintro ⟨hcopy, horder, hfree⟩
    exact ⟨hcopy, horder, hfree⟩

/-- Where two orders find room one after the other, they find it the other way round too. -/
theorem HasRoom.swap {clock' : Clock} {user' : UserId} {method' : PaymentMethod}
    {address' : Address} {cart' : Option CartId} {lines' : List PricedLine}
    {products' : List Product} (room : store.HasRoom lines.length)
    (room' : (store.withOrder clock user method address cart lines products).HasRoom
      lines'.length) :
    store.HasRoom lines'.length ∧
      (store.withOrder clock' user' method' address' cart' lines' products').HasRoom
        lines.length := by
  obtain ⟨hcopy, horder, hitems⟩ := hasRoom_withOrder_iff.mp room'
  have hboth := FreeIn.add_iff.mpr ⟨room.items, hitems⟩
  rw [Nat.add_comm] at hboth
  obtain ⟨hfirst, hsecond⟩ := FreeIn.add_iff.mp hboth
  exact ⟨⟨room.copy, room.order, hfirst⟩, hasRoom_withOrder_iff.mpr ⟨hcopy, horder, hsecond⟩⟩

end Store

namespace Order

variable {t t' : Tables} {user user' : UserId} {source source' : Source}
  {cart cart' : Option CartId} {requests requests' : List LineRequest}

/-- Users have carts of their own. -/
theorem Requested.cart_ne (unique : (t.carts.map (·.id)).Nodup) (carts : t'.carts = t.carts)
    (others : source = .cart → source' = .cart → user ≠ user')
    (h : Requested t user source cart requests) (h' : Requested t' user' source' cart' requests')
    {id : CartId} (hcart : cart = some id) : cart' ≠ some id := by
  rintro hcart'
  cases h with
  | items summed => cases hcart
  | cart found filled summed =>
    cases h' with
    | items summed => cases hcart'
    | cart found' filled' summed' =>
      rw [carts] at found'
      obtain ⟨hstored, howner⟩ := mem_of_find?_key found
      obtain ⟨hstored', howner'⟩ := mem_of_find?_key found'
      have hid := (Option.some.inj hcart').trans (Option.some.inj hcart).symm
      have hsame := eq_of_key_eq unique hstored' hstored hid
      exact others rfl rfl (howner.symm.trans ((congrArg (·.userId) hsame).symm.trans howner'))

theorem filter_emptied {id : CartId} (h : cart ≠ some id) (rows : List CartItem) :
    (emptied cart rows).filter (fun item => item.cartId = id) =
      rows.filter fun item => item.cartId = id := by
  cases cart with
  | none => rfl
  | some other =>
    rw [emptied, List.filter_filter]
    refine List.filter_congr fun item _ => ?_
    by_cases hid : item.cartId = id
    · have hne : id ≠ other := fun hsame => h (congrArg some hsame.symm)
      simp [hid, hne]
    · simp [hid]

theorem emptied_comm (cart cart' : Option CartId) (rows : List CartItem) :
    emptied cart (emptied cart' rows) = emptied cart' (emptied cart rows) := by
  cases cart with
  | none => rfl
  | some id =>
    cases cart' with
    | none => rfl
    | some other =>
      simp only [emptied, List.filter_filter]
      exact List.filter_congr fun item _ => Bool.and_comm _ _

end Order

theorem PricedLine.quantity_pos {line : PricedLine} (h : line.isStorable) : 0 < line.quantity := by
  simp only [isStorable, Bool.and_eq_true, decide_eq_true_eq] at h
  exact h.1.1.1.1.2

/-- Of two checkouts that are accepted one after the other, either is accepted first, and finds the
same lines. -/
theorem Order.Admitted.swap {store : Store} {first second first' second' : Clock}
    {user user' : UserId} {addressId addressId' : AddressId} {method method' : PaymentMethod}
    {source source' : Source} {address address' : Address} {cart cart' : Option CartId}
    {requests requests' : List LineRequest} {lines lines' : List PricedLine}
    {middle after : List Product} (unique : (store.tables.products.map (·.id)).Nodup)
    (natural : ∀ row ∈ store.tables.products, 0 ≤ row.stock)
    (carts_key : (store.tables.carts.map (·.id)).Nodup)
    (others : source = .cart → source' = .cart → user ≠ user')
    (offers : Product.SameOffers store.tables.products first.wall first'.wall)
    (offers' : Product.SameOffers store.tables.products second.wall second'.wall)
    (h : Admitted first user addressId source store.tables address cart requests lines middle)
    (h' : Admitted second user' addressId' source'
      (store.withOrder first user method address cart lines middle).tables address' cart' requests'
      lines' after) :
    ∃ between last,
      Admitted second' user' addressId' source' store.tables address' cart' requests' lines'
          between ∧
        Admitted first' user addressId source
          (store.withOrder second' user' method' address' cart' lines' between).tables address cart
          requests lines last ∧
        last.map Product.unmarked = after.map Product.unmarked := by
  have hother : ∀ id, cart = some id → cart' ≠ some id := fun id hid =>
    Requested.cart_ne carts_key (by rfl) others h.requested h'.requested hid
  obtain ⟨between, last, hsecond, hfirst, hsame⟩ := Reserved.swap unique natural
    (fun line hline => PricedLine.quantity_pos (h.lines_storable line hline))
    (fun line hline => PricedLine.quantity_pos (h'.lines_storable line hline)) offers offers'
    h.reserved h'.reserved
  have hrequested' : Requested store.tables user' source' cart' requests' :=
    h'.requested.of_lines (by rfl) fun id hid =>
      (filter_emptied (fun hcart => hother id hcart hid) store.tables.cartItems).symm
  refine ⟨between, last, ?_, ?_, hsame⟩
  · exact ⟨h'.address_found, h'.destination_storable, hrequested', hsecond, h'.totals_storable,
      h'.lines_storable⟩
  · refine ⟨h.address_found, h.destination_storable, ?_, hfirst, h.totals_storable,
      h.lines_storable⟩
    exact h.requested.of_lines (by rfl) fun id hid => filter_emptied (hother id hid) _

/-- What is placed over some lines depends on the store for identifiers alone. -/
theorem Store.unnumbered_nextPlacement (store store' : Store) (clock clock' : Clock) (user : UserId)
    (method : PaymentMethod) (address : Address) (lines : List PricedLine) :
    (store'.nextPlacement clock' user method address lines).unnumbered =
      (store.nextPlacement clock user method address lines).unnumbered := by
  have hitems (store : Store) (clock : Clock) :
      (store.nextPlacement clock user method address lines).unnumbered.items =
        lines.map fun line => (OrderItem.ofLine 0 ⟨0, 0⟩ 0 line).row := by
    simp only [Placement.unnumbered, nextPlacement, List.map_map]
    exact OrderItem.map_ofLines (fun _ _ => rfl) _ _
  have hsame := (hitems store' clock').trans (hitems store clock).symm
  simp only [Placement.unnumbered, nextPlacement] at hsame ⊢
  rw [Placement.mk.injEq]
  exact ⟨rfl, rfl, hsame⟩

open Session

variable {context : Context} {p p' : Progress} {user : UserId} {addressId : AddressId}
  {method : PaymentMethod} {source : Order.Source}

/-- An order is placed if and only if its checkout is committed. -/
theorem Order.exists_returns_place (calm : p.fault = none)
    (references : ∀ item ∈ p.tables.orderItems, ∃ other ∈ p.tables.orders,
      other.id = item.orderId) :
    (∃ found, Returns (place user addressId method source) context p found p') ↔
      ∃ order after, Returns (checkOut user addressId method source) context p order after ∧
        p' = { after with events := after.events ++ [.orderPlaced order] } := by
  constructor
  · rintro ⟨found, h⟩
    obtain ⟨order, after, hcommitted, -⟩ := returns_bind.mp h
    have hread : Returns (details order.id) context
        { after with events := after.events ++ [.orderPlaced order] } found p' := by
      rw [Returns, ← exec_place hcommitted]
      exact h
    obtain ⟨-, -, rfl⟩ := (returns_details (by exact hcommitted.fault_eq_none calm)).mp hread
    exact ⟨order, after, hcommitted, rfl⟩
  · rintro ⟨order, after, hcommitted, rfl⟩
    obtain ⟨_, _, _, _, hplaced⟩ := placed_of_returns calm hcommitted
    obtain ⟨found, hfound⟩ : ∃ found, Returns (details order.id) context
        { after with events := after.events ++ [.orderPlaced order] } found
        { after with events := after.events ++ [.orderPlaced order] } :=
      details_of_placed hplaced references (hcommitted.fault_eq_none calm)
    refine ⟨found, ?_⟩
    rw [Returns, exec_place hcommitted]
    exact hfound

namespace Step

variable {currency : String} {step : Step} {store : Store} {operation : Operation}

/-- A checkout without a fault succeeds if and only if it is admitted and the store has room for the
order, which it then adds. -/
theorem checkout_succeeds_iff (calm : step.fault = none)
    (references : ∀ item ∈ store.tables.orderItems, ∃ other ∈ store.tables.orders,
      other.id = item.orderId)
    (asked : step.operation? = some operation)
    (checkout : operation.checkout? = some (user, addressId, method, source)) {after : Store} :
    (step.run currency store).answer.isError = false ∧ (step.run currency store).store = after ↔
      operation.hasLines ∧ ∃ address cart requests lines products,
        Order.Admitted step.clock user addressId source store.tables address cart requests lines
          products ∧
        store.HasRoom lines.length ∧
        after = store.withOrder step.clock user method address cart lines products := by
  have hexec := operation.exec_checkout checkout (step.context currency) (step.start store)
  rw [succeeds_iff asked]
  by_cases hlines : operation.hasLines
  · rw [if_pos hlines] at hexec
    simp only [Returns, hexec, hlines, true_and]
    change (∃ reply p', Returns (Reply.orderDetails <$> Order.place user addressId method source)
      (step.context currency) (step.start store) reply p' ∧ p'.store = after) ↔ _
    constructor
    · rintro ⟨reply, p', h, rfl⟩
      obtain ⟨found, hplaced, -⟩ := returns_map.mp h
      obtain ⟨order, last, hcommitted, rfl⟩ :=
        (Order.exists_returns_place calm references).mp ⟨found, hplaced⟩
      obtain ⟨address, cart, requests, lines, products, hadmitted, hroom, -, rfl⟩ :=
        (Order.returns_checkOut calm).mp hcommitted
      exact ⟨address, cart, requests, lines, products, hadmitted, hroom, rfl⟩
    · rintro ⟨address, cart, requests, lines, products, hadmitted, hroom, rfl⟩
      have hcommitted : Returns (Order.checkOut user addressId method source)
          (step.context currency) (step.start store) (store.nextOrder step.clock user method lines)
          ((step.start store).at
            (store.withOrder step.clock user method address cart lines products)) :=
        (Order.returns_checkOut calm).mpr
          ⟨address, cart, requests, lines, products, hadmitted, hroom, rfl, rfl⟩
      obtain ⟨found, hfound⟩ :=
        (Order.exists_returns_place calm references).mpr ⟨_, _, hcommitted, rfl⟩
      exact ⟨.orderDetails found, _, returns_map.mpr ⟨found, hfound, rfl⟩, rfl⟩
  · rw [if_neg hlines] at hexec
    simp [Returns, hexec, hlines]

theorem places_of_withOrder {clock : Clock} {address : Address} {cart : Option CartId}
    {lines : List PricedLine} {products : List Product}
    (done : (step.run currency store).answer.isError = false)
    (changed : (step.run currency store).store =
      store.withOrder clock user method address cart lines products) :
    step.Places currency store (store.nextPlacement clock user method address lines) := by
  refine ⟨done, ?_, ?_, ?_⟩ <;> rw [changed] <;> rfl

end Step

namespace Store

variable {store store' : Store} {clock : Clock} {address : Address} {cart : Option CartId}
  {lines : List PricedLine} {products : List Product}

/-- Items still belong to orders once an order is placed. -/
theorem item_order_withOrder
    (placed : store' = store.withOrder clock user method address cart lines products)
    (references : ∀ item ∈ store.tables.orderItems, ∃ other ∈ store.tables.orders,
      other.id = item.orderId) :
    ∀ item ∈ store'.tables.orderItems, ∃ other ∈ store'.tables.orders, other.id = item.orderId := by
  rw [placed]
  intro item hitem
  rcases List.mem_append.mp hitem with hold | hnew
  · obtain ⟨other, hother, hid⟩ := references item hold
    exact ⟨other, List.mem_append_left _ hother, hid⟩
  · have hid := (store.nextPlacement clock user method address lines).owned item hnew
    exact ⟨_, List.mem_append_right _ (List.mem_singleton_self _), hid.symm⟩

/-- All that an order leaves behind besides itself is what it takes from stock and from its cart. -/
theorem apartFromOrders_withOrder :
    (store.withOrder clock user method address cart lines products).tables.apartFromOrders =
      { store.tables.apartFromOrders with
        products := products.map Product.unmarked
        cartItems := Order.emptied cart store.tables.cartItems } := rfl

end Store

theorem Operation.eq_placeFromCart {operation : Operation}
    (h : operation.checkout? = some (user, addressId, method, .cart)) :
    operation = .placeFromCart user addressId method := by
  cases operation with
  | placeFromCart user address method =>
    simp only [checkout?, Option.some.injEq, Prod.mk.injEq] at h
    obtain ⟨rfl, rfl, rfl, -⟩ := h
    rfl
  | _ => simp [checkout?] at h

/-- Of two checkouts that succeed one after the other without faults and do not take the same cart,
either may be made first while the same offers are open. Both succeed, each places the same order,
items and copy of the address in both runs apart from identifiers and times, and the same is left in
stock and in all carts. -/
theorem checkouts_commute (currency : String) {store : Store} {a b a' b' : Step}
    (constrained : store.tables.Constrained)
    (checkout : (a.operation?.bind Operation.checkout?).isSome)
    (checkout' : (b.operation?.bind Operation.checkout?).isSome) (others : a.TakeOtherCarts b)
    (repeats : a.Repeats store.tables.products a') (repeats' : b.Repeats store.tables.products b')
    (done : (a.run currency store).answer.isError = false)
    (done' : (b.run currency (a.run currency store).store).answer.isError = false) :
    ∃ made made' again again' : Placement,
      a.Places currency store made ∧ b.Places currency (a.run currency store).store made' ∧
        b'.Places currency store again' ∧ a'.Places currency (b'.run currency store).store again ∧
        again.unnumbered = made.unnumbered ∧ again'.unnumbered = made'.unnumbered ∧
        (storeAfter currency [b', a'] store).tables.apartFromOrders =
          (storeAfter currency [a, b] store).tables.apartFromOrders := by
  obtain ⟨⟨user, addressId, method, source⟩, hasked⟩ := Option.isSome_iff_exists.mp checkout
  obtain ⟨⟨user', addressId', method', source'⟩, hasked'⟩ := Option.isSome_iff_exists.mp checkout'
  obtain ⟨operation, hop, hcheckout⟩ := Option.bind_eq_some_iff.mp hasked
  obtain ⟨operation', hop', hcheckout'⟩ := Option.bind_eq_some_iff.mp hasked'
  have hothers : source = .cart → source' = .cart → user ≠ user' := by
    rintro rfl rfl rfl
    rw [Operation.eq_placeFromCart hcheckout] at hop
    rw [Operation.eq_placeFromCart hcheckout'] at hop'
    exact others _ _ _ _ _ hop hop'
  -- What the two checkouts find in the first run
  obtain ⟨hlines, address, cart, requests, lines, middle, hfirst, hroom, hstore⟩ :=
    (Step.checkout_succeeds_iff repeats.calm constrained.item_order hop hcheckout).mp ⟨done, rfl⟩
  obtain ⟨hlines', address', cart', requests', lines', after, hsecond, hroom', hstore'⟩ :=
    (Step.checkout_succeeds_iff repeats'.calm
      (Store.item_order_withOrder hstore constrained.item_order) hop' hcheckout').mp ⟨done', rfl⟩
  rw [hstore] at hsecond hroom'
  -- and so in the second
  obtain ⟨between, last, hsecond, hfirst, hsame⟩ := hfirst.swap constrained.products_key
    constrained.stock_natural constrained.carts_key hothers repeats.offers repeats'.offers hsecond
  obtain ⟨hroom', hroom⟩ := hroom.swap hroom'
  obtain ⟨again', hother⟩ := (Step.checkout_succeeds_iff repeats'.calm_again
    constrained.item_order (repeats'.operation_eq.trans hop') hcheckout').mpr
      ⟨hlines', address', cart', requests', lines', between, hsecond, hroom', rfl⟩
  rw [← hother] at hfirst hroom
  obtain ⟨again, hother'⟩ := (Step.checkout_succeeds_iff repeats.calm_again
    (Store.item_order_withOrder hother constrained.item_order)
      (repeats.operation_eq.trans hop) hcheckout).mpr
        ⟨hlines, address, cart, requests, lines, last, hfirst, hroom, rfl⟩
  refine ⟨_, _, _, _, Step.places_of_withOrder done hstore, Step.places_of_withOrder done' hstore',
    Step.places_of_withOrder again' hother, Step.places_of_withOrder again hother',
    Store.unnumbered_nextPlacement _ _ _ _ _ _ _ _, Store.unnumbered_nextPlacement _ _ _ _ _ _ _ _,
    ?_⟩
  change (a'.run currency (b'.run currency store).store).store.tables.apartFromOrders =
    (b.run currency (a.run currency store).store).store.tables.apartFromOrders
  rw [hother', hstore', Store.apartFromOrders_withOrder, Store.apartFromOrders_withOrder, hother,
    hstore, Store.apartFromOrders_withOrder, Store.apartFromOrders_withOrder, hsame]
  simp only [Store.withOrder, Order.emptied_comm cart cart']

/-- The cart of user 7 is checked out. -/
def Step.cartOrder : Step := .ofCall (.placeFromCart 7 6 .cod)

/-- User 7 orders products that are in the cart too. -/
def Step.directOrder : Step := .ofCall (.placeDirect 7 6 .cod [⟨4, 1⟩, ⟨3, 1⟩])

/-- The same, at a later time. -/
def Step.laterCartOrder : Step :=
  { Step.cartOrder with clock := ⟨⟨9, 0⟩, ⟨9, 0⟩⟩ }

theorem checkouts_commute_withCart :
    let before := storeAfter "INR" [Step.cartOrder, Step.directOrder] .withCart
    let after := storeAfter "INR" [Step.directOrder, Step.laterCartOrder] .withCart
    before.tables.orders.map (fun order => (order.id, order.finalTotal)) = [(1, 5808), (2, 4904)] ∧
      after.tables.orders.map (fun order => (order.id, order.finalTotal)) = [(1, 4904), (2, 5808)] ∧
      after.tables.products.map (·.stock) = [2, 0] ∧
      after.tables.apartFromOrders = before.tables.apartFromOrders := by
  have hconstrained : Store.withCart.tables.Constrained := by
    constructor <;> simp +decide
  have hothers : Step.cartOrder.TakeOtherCarts Step.directOrder := by
    simp [Step.TakeOtherCarts, Step.directOrder, Step.ofCall, Step.operation?]
  have hoffers : Product.SameOffers Store.withCart.tables.products Step.cartOrder.clock.wall
      Step.laterCartOrder.clock.wall := by
    unfold Product.SameOffers
    decide +kernel
  have hrepeats : Step.cartOrder.Repeats Store.withCart.tables.products Step.laterCartOrder :=
    ⟨rfl, rfl, rfl, hoffers⟩
  have hrepeats' : Step.directOrder.Repeats Store.withCart.tables.products Step.directOrder :=
    ⟨rfl, rfl, rfl, fun _ _ => rfl⟩
  obtain ⟨_, _, _, _, -, -, -, -, -, -, hsame⟩ := checkouts_commute "INR" hconstrained (by decide)
    (by decide) hothers hrepeats hrepeats' (by decide +kernel) (by decide +kernel)
  exact ⟨by decide +kernel, by decide +kernel, by decide +kernel, hsame⟩

end Storefront
