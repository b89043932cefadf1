import Storefront.Proofs.Order.Composition
import Storefront.Proofs.Purchase.Evolution

/-!
Whose rows are whose. An order belongs to the user who placed it, with its items, its payment and
its copy of an address, and a cart belongs to its user with its lines. What an operation of one user
does leaves everything that belongs to the others as it was.
-/

namespace Storefront

/-- There is such a row, and every such row has that owner. -/
def OwnedBy {α : Type} (rows : List α) (such : α → Prop) (owner : α → UserId) (user : UserId) :
    Prop :=
  (∃ row ∈ rows, such row) ∧ ∀ row ∈ rows, such row → owner row = user

/-- Whether some such row has another owner. -/
def isOthers {α : Type} (rows : List α) (such : α → Bool) (owner : α → UserId) (user : UserId) :
    Bool :=
  (rows.filter fun row => owner row ≠ user).any such

theorem isOthers_eq_false {α : Type} {rows : List α} {such : α → Bool} {owner : α → UserId}
    {user : UserId} (h : ∀ row ∈ rows, such row → owner row = user) :
    isOthers rows such owner user = false := by
  rw [isOthers, List.any_filter, List.any_eq_false]
  intro row hrow hother
  rw [Bool.and_eq_true, decide_eq_true_eq] at hother
  exact hother.1 (h row hrow hother.2)

/-- A row that has its key to itself tells whose the key is. -/
theorem ownedBy_of_mem {α κ : Type} {rows : List α} {key : α → κ} {owner : α → UserId}
    {user : UserId} (unique : (rows.map key).Nodup) {row : α} (hrow : row ∈ rows)
    (howner : owner row = user) : OwnedBy rows (fun other => key other = key row) owner user := by
  refine ⟨⟨row, hrow, rfl⟩, fun other hother hsame => ?_⟩
  rw [eq_of_key_eq unique hother hrow hsame]
  exact howner

theorem isOthers_congr {α : Type} {rows rows' : List α} {owner : α → UserId} {user : UserId}
    (h : rows'.filter (fun row => owner row ≠ user) = rows.filter fun row => owner row ≠ user)
    (such : α → Bool) : isOthers rows' such owner user = isOthers rows such owner user := by
  rw [isOthers, isOthers, h]

/-- The user who performs an operation, if it is one of a user's own. -/
def Operation.user? : Operation → Option UserId
  | .placeFromCart user _ _ => some user
  | .placeDirect user _ _ _ => some user
  | .cancelItem user _ _ _ => some user
  | .cancelOrder user _ => some user
  | .getOrder user _ => some user
  | .listOrders user _ _ => some user
  | .listItems user _ => some user
  | .createIntent user _ _ => some user
  | .getPayment user _ => some user
  | .getCart user => some user
  | .replaceCart user _ => some user
  | .updateOrderStatus _ _ => none
  | .getAnyOrder _ => none
  | .listAllOrders => none
  | .confirmPayment _ _ => none
  | .refundPayment _ => none
  | .reviseProduct _ _ _ => none

theorem Operation.user?_of_checkout? {operation : Operation} {user : UserId} {address : AddressId}
    {method : PaymentMethod} {source : Order.Source}
    (h : operation.checkout? = some (user, address, method, source)) :
    operation.user? = some user := by
  cases operation <;> simp_all [checkout?, user?]

namespace Tables

/-- The order is the user's. -/
def OrderOf (t : Tables) (user : UserId) (id : OrderId) : Prop :=
  OwnedBy t.orders (fun order => order.id = id) (·.userId) user

/-- The copy of an address is that of an order of the user's. -/
def CopyOf (t : Tables) (user : UserId) (id : AddressId) : Prop :=
  OwnedBy t.orders (fun order => order.shippingAddressId = some id) (·.userId) user

/-- The cart is the user's. -/
def CartOf (t : Tables) (user : UserId) (id : CartId) : Prop :=
  OwnedBy t.carts (fun cart => cart.id = id) (·.userId) user

/-- Whether some order with that identifier is another user's. -/
def isOthersOrder (t : Tables) (user : UserId) (id : OrderId) : Bool :=
  isOthers t.orders (fun order => order.id = id) (·.userId) user

/-- Whether some order with that copy of an address is another user's. -/
def isOthersCopy (t : Tables) (user : UserId) (id : AddressId) : Bool :=
  isOthers t.orders (fun order => order.shippingAddressId = some id) (·.userId) user

/-- Whether some cart with that identifier is another user's. -/
def isOthersCart (t : Tables) (user : UserId) (id : CartId) : Bool :=
  isOthers t.carts (fun cart => cart.id = id) (·.userId) user

/-- The tables with the rows that belong to the other users alone; products belong to no one. -/
def without (user : UserId) (t : Tables) : Tables :=
  { t with
    products := []
    carts := t.carts.filter fun cart => cart.userId ≠ user
    cartItems := t.cartItems.filter fun line => t.isOthersCart user line.cartId
    orderAddresses := t.orderAddresses.filter fun copy => t.isOthersCopy user copy.id
    orders := t.orders.filter fun order => order.userId ≠ user
    orderItems := t.orderItems.filter fun item => t.isOthersOrder user item.orderId
    payments := t.payments.filter fun payment => t.isOthersOrder user payment.orderId }

/-- The copy says what some address of the user's says. -/
def CopiedFor (t : Tables) (user : UserId) (copy : OrderAddress) : Prop :=
  ∃ address ∈ t.addresses, address.userId = user ∧ address.destination = copy.destination

/-- Carts have their own identifiers, and orders have copies of addresses of their own, which were
made of addresses of their users. -/
structure Divided (t : Tables) : Prop where
  carts_key : (t.carts.map (·.id)).Nodup
  copies_key : (t.orders.map (·.shippingAddressId)).Nodup
  copy_found : ∀ id, some id ∈ t.orders.map (·.shippingAddressId) →
    ∃ copy ∈ t.orderAddresses, copy.id = id
  copy_source : ∀ order ∈ t.orders, ∀ copy ∈ t.orderAddresses,
    order.shippingAddressId = some copy.id → t.CopiedFor order.userId copy

variable {t t' : Tables} {user : UserId}

theorem orderOf_of_found {order : Order} {id : OrderId} (coherent : t.Coherent)
    (found : t.orders.find? (fun row => row.id = id) = some order.row)
    (owner : order.userId = user) : t.OrderOf user id := by
  obtain ⟨hstored, rfl⟩ := mem_of_find?_key found
  exact ownedBy_of_mem coherent.orders_key hstored owner

theorem isOthersOrder_eq_false {id : OrderId}
    (h : ∀ order ∈ t.orders, order.id = id → order.userId = user) :
    t.isOthersOrder user id = false :=
  isOthers_eq_false fun order horder hid => h order horder (of_decide_eq_true hid)

theorem isOthersCopy_eq_false {id : AddressId}
    (h : ∀ order ∈ t.orders, order.shippingAddressId ≠ some id) :
    t.isOthersCopy user id = false :=
  isOthers_eq_false fun order horder hid => absurd (of_decide_eq_true hid) (h order horder)

theorem isOthersCart_eq_false {id : CartId}
    (h : ∀ cart ∈ t.carts, cart.id = id → cart.userId = user) :
    t.isOthersCart user id = false :=
  isOthers_eq_false fun cart hcart hid => h cart hcart (of_decide_eq_true hid)

/-- Tables agree on what belongs to the others if each of them has the same rows of the others. -/
theorem without_congr (prices : t'.productPrices = t.productPrices)
    (addresses : t'.addresses = t.addresses)
    (carts : t'.carts.filter (fun cart => cart.userId ≠ user) =
      t.carts.filter fun cart => cart.userId ≠ user)
    (cartItems : t'.cartItems.filter (fun line => t.isOthersCart user line.cartId) =
      t.cartItems.filter fun line => t.isOthersCart user line.cartId)
    (copies : t'.orderAddresses.filter (fun copy => t.isOthersCopy user copy.id) =
      t.orderAddresses.filter fun copy => t.isOthersCopy user copy.id)
    (orders : t'.orders.filter (fun order => order.userId ≠ user) =
      t.orders.filter fun order => order.userId ≠ user)
    (items : t'.orderItems.filter (fun item => t.isOthersOrder user item.orderId) =
      t.orderItems.filter fun item => t.isOthersOrder user item.orderId)
    (payments : t'.payments.filter (fun payment => t.isOthersOrder user payment.orderId) =
      t.payments.filter fun payment => t.isOthersOrder user payment.orderId) :
    t'.without user = t.without user := by
  have horder : t'.isOthersOrder user = t.isOthersOrder user :=
    funext fun id => isOthers_congr orders fun order => order.id = id
  have hcopy : t'.isOthersCopy user = t.isOthersCopy user :=
    funext fun id => isOthers_congr orders fun order => order.shippingAddressId = some id
  have hcart : t'.isOthersCart user = t.isOthersCart user :=
    funext fun id => isOthers_congr carts fun cart => cart.id = id
  simp only [without, horder, hcopy, hcart, prices, addresses, carts, cartItems, copies, orders,
    items, payments]

/-- Rows that are not chosen may be added. -/
theorem filter_append_of_false {α : Type} {q : α → Bool} {rows new : List α}
    (h : ∀ row ∈ new, q row = false) : (rows ++ new).filter q = rows.filter q := by
  rw [List.filter_append, List.append_right_eq_self, List.filter_eq_nil_iff]
  exact fun row hrow => Bool.eq_false_iff.mp (h row hrow)

/-- Where some rows are spared, fewer are. -/
theorem filter_of_spared {α : Type} {q spared : α → Bool} {rows rows' : List α}
    (h : rows'.filter spared = rows.filter spared) (apart : ∀ row, q row → spared row) :
    rows'.filter q = rows.filter q := by
  have hboth (list : List α) : (list.filter spared).filter q = list.filter q := by
    rw [List.filter_filter]
    refine List.filter_congr fun row _ => ?_
    by_cases hq : q row
    · rw [hq, apart row hq, Bool.and_self]
    · rw [Bool.eq_false_iff.mpr hq, Bool.false_and]
  rw [← hboth rows', h, hboth]

/-- Amending an order of the user's leaves what is the others'. -/
theorem without_amended {clock : Clock} {order : Order} {items : List OrderItem}
    {change : Order × Option Payment} (coherent : t.Coherent) (sound : PaymentRow.Sound t.payments)
    (h : order.Amended clock t items change t') (owner : order.userId = user)
    (follows : Payment.FollowsIn order.id t.payments change.2) :
    t'.without user = t.without user := by
  have hid : change.1.id = order.id := Order.id_of_fixed h.fixed
  obtain ⟨-, hsame⟩ := orderOf_of_found coherent h.order_found owner
  have hothers := isOthersOrder_eq_false hsame
  obtain ⟨reason, hcancelled⟩ := h.exists_orderItems_eq
  have hrest := h.rest_eq
  refine without_congr (by rw [hrest]) (by rw [hrest]) (by rw [hrest]) (by rw [hrest])
    (by rw [hrest]) ?_ ?_ ?_
  · rw [h.orders_eq]
    refine filter_updateWhere_eq (fun _ => rfl) fun row hrow hother => ?_
    rw [decide_eq_true_eq] at hother
    exact decide_eq_false fun hrowId => hother (hsame row hrow (hrowId.trans hid))
  · rw [hcancelled]
    refine filter_updateWhere_eq (fun _ => rfl)
      fun row hrow hother => decide_eq_false fun hrowId => ?_
    obtain ⟨item, hitem, rfl⟩ := h.exists_item coherent hrow hrowId
    have hown : item.row.orderId = order.id := h.items_own item hitem
    rw [hown, hothers] at hother
    cases hother
  · rw [h.payments_eq]
    exact Payment.filter_writeTo_of_false sound follows hothers

end Tables

namespace Cart

variable {clock : Clock} {user : UserId} {number : CartId} {t t' : Tables} {cart : Cart}
  {answer : FilledCart}

theorem Held.mem (h : Held clock user number t cart t') :
    cart ∈ t'.carts ∧ cart.userId = user := by
  rcases h with ⟨hfound, rfl⟩ | hcreated
  · exact mem_of_find?_key hfound
  · rw [hcreated.changed, hcreated.cart_eq]
    exact ⟨List.mem_append_right _ List.mem_cons_self, rfl⟩

theorem Held.carts_key (key : (t.carts.map (·.id)).Nodup) (h : Held clock user number t cart t') :
    (t'.carts.map (·.id)).Nodup := by
  rcases h with ⟨-, rfl⟩ | hcreated
  · exact key
  · rw [hcreated.changed]
    refine nodup_keys_append key (List.nodup_singleton _) ?_
    rintro _ (_ | ⟨_, ⟨⟩⟩)
    exact hcreated.fresh

theorem Held.others_eq (h : Held clock user number t cart t') :
    t'.carts.filter (fun other => other.userId ≠ user) =
      t.carts.filter fun other => other.userId ≠ user := by
  rcases h with ⟨-, rfl⟩ | hcreated
  · rfl
  · rw [hcreated.changed, hcreated.cart_eq]
    exact Tables.filter_append_of_false
      (List.forall_mem_singleton.mpr (decide_eq_false (not_not.mpr rfl)))

/-- A user who gets a cart leaves what is the others'. -/
theorem Held.without_eq (h : Held clock user number t cart t') :
    t'.without user = t.without user := by
  have hcarts := h.others_eq
  have hrest := h.changed
  exact Tables.without_congr (by rw [hrest]) (by rw [hrest]) hcarts (by rw [hrest]) (by rw [hrest])
    (by rw [hrest]) (by rw [hrest]) (by rw [hrest])

theorem Refilled.carts_key (key : (t.carts.map (·.id)).Nodup)
    (h : Refilled clock user number t answer t') : (t'.carts.map (·.id)).Nodup := by
  obtain ⟨middle, hheld, hcarts⟩ := h.held
  have hids : t'.carts.map (·.id) = middle.carts.map (·.id) := by
    rw [hcarts]
    exact map_updateWhere fun _ => rfl
  rw [hids]
  exact hheld.carts_key key

/-- A user whose cart is filled anew leaves what is the others'. -/
theorem Refilled.without_eq (key : (t.carts.map (·.id)).Nodup)
    (h : Refilled clock user number t answer t') : t'.without user = t.without user := by
  obtain ⟨middle, hheld, hcarts⟩ := h.held
  obtain ⟨hmem, howner⟩ := hheld.mem
  obtain ⟨-, hsame⟩ : middle.CartOf user answer.cart.id :=
    ownedBy_of_mem (hheld.carts_key key) hmem howner
  have hothers : t.isOthersCart user answer.cart.id = false := by
    refine (isOthers_congr hheld.others_eq fun cart => cart.id = answer.cart.id).symm.trans ?_
    exact Tables.isOthersCart_eq_false hsame
  have hrest := h.untouched
  refine Tables.without_congr (by rw [hrest]) (by rw [hrest]) ?_ ?_ (by rw [hrest]) (by rw [hrest])
    (by rw [hrest]) (by rw [hrest])
  · rw [hcarts, ← hheld.others_eq]
    refine filter_updateWhere_eq (fun _ => rfl) fun cart hcart hother => ?_
    rw [decide_eq_true_eq] at hother
    exact decide_eq_false fun hid => hother (hsame cart hcart hid)
  · refine Tables.filter_of_spared h.spared fun line hline => decide_eq_true fun hid => ?_
    rw [hid, hothers] at hline
    cases hline

end Cart

section Effects

variable {context : Context} {fault : Option Fault} {store : Store} {t' : Tables} {user : UserId}
  {operation : Operation} {events : List Event}

/-- The lines of the others' carts are left by a checkout. -/
theorem Order.Requested.others_eq {t : Tables} {source : Source} {cart : Option CartId}
    {requests : List LineRequest} (key : (t.carts.map (·.id)).Nodup)
    (h : Requested t user source cart requests) :
    (emptied cart t.cartItems).filter (fun line => t.isOthersCart user line.cartId) =
      t.cartItems.filter fun line => t.isOthersCart user line.cartId := by
  cases h with
  | items summed => rfl
  | @cart cart _ found filled summed =>
    obtain ⟨hmem, howner⟩ := mem_of_find?_key found
    have hothers : t.isOthersCart user cart.id = false :=
      Tables.isOthersCart_eq_false (ownedBy_of_mem key hmem howner).2
    rw [emptied, List.filter_filter]
    refine List.filter_congr fun line _ => ?_
    by_cases hid : line.cartId = cart.id
    · rw [hid, hothers, Bool.false_and]
    · rw [decide_eq_false hid, Bool.not_false, Bool.and_true]

/-- A checkout of the user's leaves what is the others'. -/
theorem Order.Placed.without_eq {clock : Clock} {addressId : AddressId} {method : PaymentMethod}
    {source : Source} {address : Address} {cart : Option CartId}
    {requests : List LineRequest} {lines : List PricedLine} {order : Order}
    (divided : store.tables.Divided)
    (h : Placed clock user addressId method source store address cart requests lines order t') :
    t'.without user = store.tables.without user := by
  have howner : order.userId = user := by
    rw [h.order_eq]
    rfl
  have hnew : store.tables.isOthersOrder user order.id = false :=
    Tables.isOthersOrder_eq_false fun row hrow hid => absurd hid (h.order_fresh row hrow)
  have hcopy : store.tables.isOthersCopy user store.sequences.orderAddress = false := by
    refine Tables.isOthersCopy_eq_false fun row hrow hid => ?_
    obtain ⟨copy, hcopy, hsame⟩ := divided.copy_found _ (List.mem_map.mpr ⟨row, hrow, hid⟩)
    exact h.copy_fresh copy hcopy hsame
  have hlines := h.requested.others_eq divided.carts_key
  obtain ⟨products, -, rfl⟩ := h.changed
  refine Tables.without_congr rfl rfl rfl hlines ?_ ?_ ?_ rfl
  · exact Tables.filter_append_of_false (List.forall_mem_singleton.mpr hcopy)
  · refine Tables.filter_append_of_false (List.forall_mem_singleton.mpr ?_)
    exact decide_eq_false (not_not.mpr howner)
  · refine Tables.filter_append_of_false fun row hrow => ?_
    obtain ⟨item, hitem, rfl⟩ := List.mem_map.mp hrow
    have hown : item.row.orderId = order.id := (h.of_mem_itemsOf hitem).1
    rw [hown]
    exact hnew

/-- A payment for an order of the user's leaves what is the others'. -/
theorem Payment.Opened.without_eq {clock : Clock} {currency : String} {id : OrderId}
    {method : PaymentMethod} {number : Nat} {t : Tables} {order : Order} {payment : Payment}
    (coherent : t.Coherent) (h : Opened clock currency user id method number t order payment t') :
    t'.without user = t.without user := by
  have howner : payment.orderId = id := by
    rw [h.payment_eq]
    rfl
  have hothers : t.isOthersOrder user id = false :=
    Tables.isOthersOrder_eq_false (Tables.orderOf_of_found coherent h.order_found h.owner).2
  rw [h.changed]
  refine Tables.without_congr rfl rfl rfl rfl rfl rfl rfl ?_
  refine Tables.filter_append_of_false (List.forall_mem_singleton.mpr ?_)
  exact (congrArg (t.isOthersOrder user) howner).trans hothers

/-- A cancelled order is still the user's. -/
theorem Order.CalledOff.owner_of_found {clock : Clock} {id : OrderId} {t : Tables}
    {order found : Order} {items : List OrderItem} {payment : Option Payment}
    (coherent : t.Coherent) (h : CalledOff clock user id t order items payment t')
    (hfound : t'.orders.find? (fun row => row.id = id) = some found.row) : found.userId = user := by
  have hfixed := fixed_calledOff order payment
  have hstored := (h.amended coherent).found
  rw [id_of_found h.order_found, hfound, Option.some.injEq] at hstored
  rw [row_injective hstored]
  exact (congrArg (fun columns => columns.2.1) hfixed).trans h.owner

/-- What an operation of the user's does leaves what is the others'. -/
theorem Operation.Effect.without_eq (lawful : store.tables.Lawful) (divided : store.tables.Divided)
    (h : operation.Effect context fault store events t') (hop : operation.user? = some user) :
    t'.without user = store.tables.without user := by
  obtain ⟨coherent, -, settled⟩ := lawful
  cases h with
  | placed asked hasLines placed =>
    obtain rfl := Option.some.inj ((user?_of_checkout? asked).symm.trans hop)
    exact placed.without_eq divided
  | itemCancelled cancelled =>
    obtain rfl := Option.some.inj hop
    exact Tables.without_amended coherent settled.sound cancelled.amended cancelled.owner
      (cancelled.accounted settled).1
  | orderCancelled cancelled answered undue =>
    obtain rfl := Option.some.inj hop
    exact Tables.without_amended coherent settled.sound (cancelled.amended coherent) cancelled.owner
      (cancelled.accounted coherent settled (Bool.eq_false_iff.mp undue)).1
  | orderRefunded cancelled answered due refund =>
    obtain rfl := Option.some.inj hop
    have hfirst := cancelled.amended coherent
    have hsettled := cancelled.settled_of_refundDue coherent settled due
    refine (Tables.without_amended (coherent.amended hfirst) hsettled.sound refund.amended ?_
      (refund.accounted hsettled).1).trans ?_
    · exact cancelled.owner_of_found coherent refund.order_found
    · exact Tables.without_amended coherent settled.sound hfirst cancelled.owner
        (Order.CalledOff.followsIn due)
  | refundFailed cancelled answered due failed =>
    obtain rfl := Option.some.inj hop
    exact Tables.without_amended coherent settled.sound (cancelled.amended coherent) cancelled.owner
      (Order.CalledOff.followsIn due)
  | intentCreated opened =>
    obtain rfl := Option.some.inj hop
    exact opened.without_eq coherent
  | cartCreated created =>
    obtain rfl := Option.some.inj hop
    exact Cart.Held.without_eq (.inr created)
  | cartReplaced untouched refilled =>
    obtain rfl := Option.some.inj hop
    exact refilled.without_eq divided.carts_key
  | statusChanged => cases hop
  | paymentConfirmed => cases hop
  | refunded => cases hop
  | productRevised => cases hop

end Effects

namespace Tables.Divided

variable {context : Context} {fault : Option Fault} {store : Store} {t t' : Tables}
  {operation : Operation} {events : List Event}

theorem of_empty (key : (t.carts.map (·.id)).Nodup) (orders : t.orders = []) : t.Divided := by
  refine ⟨key, ?_, ?_, ?_⟩
  · rw [orders]
    exact List.nodup_nil
  · simp [orders]
  · simp [orders]

/-- The orders that were there keep their copies of addresses. -/
theorem of_sameOrders (h : t.Divided) (same : t.SameOrders t')
    (key : (t'.carts.map (·.id)).Nodup) (addresses : t'.addresses = t.addresses) : t'.Divided := by
  have hcopies := same.addressIds_eq
  refine ⟨key, ?_, fun id hid => ?_, fun order horder copy hcopy hid => ?_⟩
  · rw [hcopies]
    exact h.copies_key
  · rw [hcopies] at hid
    rw [same.copies]
    exact h.copy_found id hid
  · obtain ⟨old, hold, hrecord⟩ := same.exists_record_eq horder
    have hid' : old.shippingAddressId = order.shippingAddressId :=
      congrArg (·.shippingAddressId) hrecord
    have huser : old.userId = order.userId := congrArg (·.userId) hrecord
    rw [same.copies] at hcopy
    rw [CopiedFor, addresses, ← huser]
    exact h.copy_source old hold copy hcopy (hid'.trans hid)

/-- A new order has a copy of an address of its own. -/
theorem placed {clock : Clock} {user : UserId} {addressId : AddressId} {method : PaymentMethod}
    {source : Order.Source} {address : Address} {cart : Option CartId}
    {requests : List LineRequest} {lines : List PricedLine} {order : Order}
    (h : store.tables.Divided)
    (placed : Order.Placed clock user addressId method source store address cart requests lines
      order t') : t'.Divided := by
  have hshipped : order.row.shippingAddressId = some store.sequences.orderAddress := by
    rw [placed.order_eq]
    rfl
  have hnew (other : OrderRow) (hother : other ∈ store.tables.orders) :
      other.shippingAddressId ≠ some store.sequences.orderAddress := by
    intro hid
    obtain ⟨copy, hcopy, hsame⟩ := h.copy_found _ (List.mem_map.mpr ⟨other, hother, hid⟩)
    exact placed.copy_fresh copy hcopy hsame
  have hsource : store.tables.CopiedFor order.row.userId
      ⟨store.sequences.orderAddress, address.destination, clock.store⟩ := by
    have howner := List.find?_some placed.address_found
    rw [Bool.and_eq_true, decide_eq_true_eq, decide_eq_true_eq] at howner
    refine ⟨address, List.mem_of_find?_eq_some placed.address_found, ?_, rfl⟩
    rw [howner.2, placed.order_eq]
    rfl
  have hfresh := placed.copy_fresh
  obtain ⟨products, -, rfl⟩ := placed.changed
  refine ⟨h.carts_key, ?_, fun id hid => ?_, fun other hother copy hcopy hid => ?_⟩
  · refine nodup_keys_append h.copies_key (List.nodup_singleton _) ?_
    rintro _ (_ | ⟨_, ⟨⟩⟩) other hother hsame
    exact hnew other hother (hsame.trans hshipped)
  · rw [List.map_append, List.mem_append] at hid
    rcases hid with hold | hlast
    · obtain ⟨copy, hcopied, hsame⟩ := h.copy_found id hold
      exact ⟨copy, List.mem_append_left _ hcopied, hsame⟩
    · refine ⟨_, List.mem_append_right _ List.mem_cons_self, ?_⟩
      exact (Option.some.inj ((List.mem_singleton.mp hlast).trans hshipped)).symm
  · rw [List.mem_append, List.mem_singleton] at hother hcopy
    rcases hother with hother | rfl
    · rcases hcopy with hcopy | rfl
      · exact h.copy_source other hother copy hcopy hid
      · exact absurd hid (hnew other hother)
    · rcases hcopy with hcopy | rfl
      · exact absurd (Option.some.inj (hid.symm.trans hshipped)) (hfresh copy hcopy)
      · exact hsource

/-- Carts keep identifiers of their own. -/
theorem carts_key_effect (coherent : store.tables.Coherent) (h : store.tables.Divided)
    (heffect : operation.Effect context fault store events t') : (t'.carts.map (·.id)).Nodup := by
  have key := h.carts_key
  have hamended {clock : Clock} {t t' : Tables} {order : Order} {items : List OrderItem}
      {change : Order × Option Payment} (amended : order.Amended clock t items change t') :
      t'.carts = t.carts := by
    rw [amended.rest_eq]
  cases heffect with
  | placed asked hasLines placed =>
    obtain ⟨products, -, rfl⟩ := placed.changed
    exact key
  | itemCancelled cancelled =>
    rw [hamended cancelled.amended]
    exact key
  | orderCancelled cancelled =>
    rw [hamended (cancelled.amended coherent)]
    exact key
  | orderRefunded cancelled answered due refund =>
    rw [hamended refund.amended, hamended (cancelled.amended coherent)]
    exact key
  | refundFailed cancelled =>
    rw [hamended (cancelled.amended coherent)]
    exact key
  | statusChanged moved =>
    rw [hamended (moved.amended coherent)]
    exact key
  | intentCreated opened =>
    rw [opened.changed]
    exact key
  | @paymentConfirmed _ _ _ _ _ confirmation _ called =>
    rw [called.changed]
    cases confirmation <;> exact key
  | refunded refund =>
    rw [hamended refund.amended]
    exact key
  | cartCreated created => exact Cart.Held.carts_key key (.inr created)
  | cartReplaced untouched refilled => exact refilled.carts_key key
  | productRevised found natural changed =>
    rw [changed]
    exact key

theorem effect (coherent : store.tables.Coherent) (h : store.tables.Divided)
    (heffect : operation.Effect context fault store events t') : t'.Divided := by
  cases hop : operation.checkout? with
  | none =>
    exact h.of_sameOrders (.effect heffect hop) (h.carts_key_effect coherent heffect)
      heffect.addresses_eq
  | some asked =>
    cases heffect with
    | placed asked hasLines placed => exact h.placed placed
    | _ => cases hop

end Tables.Divided

/-- Along a run from a store without orders, everything has an owner of its own. -/
theorem divided_storeAfter (currency : String) {steps : List Step} {start : Store}
    (constrained : start.tables.Constrained) (orders : start.tables.orders = [])
    (served : ∀ step ∈ steps, step.IsServed) :
    (storeAfter currency steps start).tables.Lawful ∧
      (storeAfter currency steps start).tables.Divided := by
  have hlawful : start.tables.Lawful :=
    .of_empty orders (constrained.orderItems_eq_nil orders) (constrained.payments_eq_nil orders)
  refine storeAfter_induction
    (I := fun store => store.tables.Lawful ∧ store.tables.Divided)
    ⟨hlawful, .of_empty constrained.carts_key orders⟩ ?_
  rintro step hstep store ⟨lawful, divided⟩
  have hserved := served step hstep
  refine ⟨Step.lawful hserved lawful, step.keeps currency hserved divided ?_⟩
  intro operation events t' _ heffect
  exact divided.effect lawful.coherent heffect

end Storefront
