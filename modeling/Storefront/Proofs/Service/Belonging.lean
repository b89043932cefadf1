import Storefront.Proofs.Order.Reading
import Storefront.Proofs.Service.Ownership

/-!
What belongs to a user. A call of a user's answers and announces nothing but what is the user's own:
orders, with their items, payments and copies of addresses, and the cart with its lines.
-/

namespace Storefront

/-- The item is one of an order of the user's. -/
def Tables.ItemOf (t : Tables) (user : UserId) (id : ItemId) : Prop :=
  (∃ item ∈ t.orderItems, item.id = id) ∧
    ∀ item ∈ t.orderItems, item.id = id → t.OrderOf user item.orderId

/-- The order names the user, and it is the user's in the tables. -/
structure Order.BelongsTo (order : Order) (user : UserId) (t : Tables) : Prop where
  owner : order.userId = user
  stored : t.OrderOf user order.id

structure OrderDetails.BelongsTo (details : OrderDetails) (user : UserId) (t : Tables) : Prop where
  order : details.order.BelongsTo user t
  items : ∀ item ∈ details.items, t.OrderOf user item.orderId
  copy : ∀ copy, details.shippingAddress = some copy →
    t.CopyOf user copy.id ∧ t.CopiedFor user copy

structure FilledCart.BelongsTo (filled : FilledCart) (user : UserId) (t : Tables) : Prop where
  owner : filled.cart.userId = user
  cart : t.CartOf user filled.cart.id
  lines : ∀ line ∈ filled.items, t.CartOf user line.cartId

/-- What is answered belongs to the user. A product belongs to no one. -/
def Reply.BelongsTo (user : UserId) (t : Tables) : Reply → Prop
  | .order found => found.BelongsTo user t
  | .orderDetails details => details.BelongsTo user t
  | .orderPage page => ∀ found ∈ page.orders, found.BelongsTo user t
  | .orders listed => ∀ found ∈ listed, found.BelongsTo user t
  | .orderItems items => ∀ item ∈ items, t.OrderOf user item.orderId
  | .payment found => t.OrderOf user found.orderId
  | .paymentIntent intent => t.OrderOf user intent.payment.orderId
  | .cart filled => filled.BelongsTo user t
  | .product _ => False

/-- What is announced belongs to the user. -/
def Event.BelongsTo (user : UserId) (t : Tables) : Event → Prop
  | .orderPlaced order => order.BelongsTo user t
  | .orderItemCancelled order item => order.BelongsTo user t ∧ t.ItemOf user item
  | .orderCancelled order => order.BelongsTo user t
  | .orderStatusChanged order _ => order.BelongsTo user t
  | .paymentUpdated payment => t.OrderOf user payment.orderId
  | .refundFailed id _ => t.OrderOf user id

open Session

namespace Tables

variable {t t' : Tables} {user : UserId}

theorem SameOrders.symm (same : t.SameOrders t') : t'.SameOrders t :=
  ⟨same.copies.symm, same.orders.symm, same.orderItems.symm⟩

/-- An order stays the user's as long as what is on record of it is kept. -/
theorem OrderOf.of_sameOrders {id : OrderId} (h : t.OrderOf user id) (same : t.SameOrders t') :
    t'.OrderOf user id := by
  obtain ⟨⟨order, horder, hid⟩, hall⟩ := h
  constructor
  · obtain ⟨kept, hkept, hrecord⟩ := same.symm.exists_record_eq horder
    exact ⟨kept, hkept, (congrArg (·.id) hrecord).trans hid⟩
  · intro kept hkept hkeptId
    obtain ⟨old, hold, hrecord⟩ := same.exists_record_eq hkept
    have howner := hall old hold ((congrArg (·.id) hrecord).trans hkeptId)
    exact (congrArg (·.userId) hrecord.symm).trans howner

/-- An order that was found is still its owner's. -/
theorem SameOrders.orderOf_of_found {id : OrderId} {order : Order} (same : t.SameOrders t')
    (coherent : t.Coherent) (found : t.orders.find? (fun row => row.id = id) = some order.row)
    (owner : order.userId = user) : t'.OrderOf user id :=
  (Tables.orderOf_of_found coherent found owner).of_sameOrders same

theorem ItemOf.of_sameOrders {id : ItemId} (h : t.ItemOf user id) (same : t.SameOrders t') :
    t'.ItemOf user id := by
  have hrecords {rows rows' : List ItemRow}
      (h : rows'.map ItemRow.record = rows.map ItemRow.record) {item : ItemRow}
      (hitem : item ∈ rows') : ∃ old ∈ rows, old.record = item.record := by
    have hrecord := List.mem_map_of_mem (f := ItemRow.record) hitem
    rw [h] at hrecord
    exact List.mem_map.mp hrecord
  obtain ⟨⟨item, hitem, hid⟩, hall⟩ := h
  constructor
  · obtain ⟨kept, hkept, hrecord⟩ := hrecords same.orderItems.symm hitem
    exact ⟨kept, hkept, (congrArg (·.id) hrecord).trans hid⟩
  · intro kept hkept hkeptId
    obtain ⟨old, hold, hrecord⟩ := hrecords same.orderItems hkept
    have horder : old.orderId = kept.orderId := congrArg (·.orderId) hrecord
    rw [← horder]
    exact (hall old hold ((congrArg (·.id) hrecord).trans hkeptId)).of_sameOrders same

end Tables

namespace Order

variable {t t' : Tables} {user : UserId} {order answer : Order} {id : OrderId}

/-- An order belongs to its user if its row is stored. -/
theorem belongsTo_of_mem (coherent : t.Coherent) (stored : order.row ∈ t.orders)
    (owner : order.userId = user) : order.BelongsTo user t :=
  ⟨owner, ownedBy_of_mem coherent.orders_key stored owner⟩

/-- What an order that was found has become belongs to its user. -/
theorem belongsTo_of_fixed (coherent : t.Coherent)
    (found : t.orders.find? (fun row => row.id = id) = some order.row)
    (owner : order.userId = user) (fixed : answer.fixed = order.fixed) (same : t.SameOrders t') :
    answer.BelongsTo user t' := by
  refine ⟨(congrArg (fun columns => columns.2.1) fixed).trans owner, ?_⟩
  rw [id_of_fixed fixed, id_of_found found]
  exact same.orderOf_of_found coherent found owner

end Order

/-- What is read of an order belongs to its user. -/
theorem OrderDetails.StoredIn.belongsTo {t : Tables} {details : OrderDetails} {user : UserId}
    (coherent : t.Coherent) (divided : t.Divided) (h : details.StoredIn t)
    (owner : details.order.userId = user) : details.BelongsTo user t := by
  have hstored := List.mem_of_find?_eq_some h.order_found
  have horder := Order.belongsTo_of_mem coherent hstored owner
  refine ⟨horder, fun item hitem => ?_, fun copy hcopy => ?_⟩
  · rw [(h.items_listed.mem_iff.mp hitem).2]
    exact horder.stored
  · rw [h.address_eq, Option.bind_eq_some_iff] at hcopy
    obtain ⟨id, hid, hfound⟩ := hcopy
    obtain ⟨hmem, rfl⟩ := mem_of_find?_key hfound
    have hrow : details.order.row.shippingAddressId = some copy.id := hid
    have howned : OwnedBy t.orders
        (fun order => order.shippingAddressId = details.order.row.shippingAddressId)
        (·.userId) user := ownedBy_of_mem divided.copies_key hstored owner
    have hsource := divided.copy_source _ hstored copy hmem hrow
    rw [hrow] at howned
    exact ⟨howned, owner ▸ hsource⟩

/-- A cart that is in the tables belongs to its user with its lines. -/
theorem FilledCart.belongsTo_of_mem {t : Tables} {filled : FilledCart} {cart : Cart} {user : UserId}
    (divided : t.Divided) (stored : cart ∈ t.carts) (id : cart.id = filled.cart.id)
    (owner : filled.cart.userId = user) (same : cart.userId = user)
    (listed : filled.items = sortBy (fun a b => a.productId ≤ b.productId)
      (t.cartItems.filter fun line => line.cartId = filled.cart.id)) :
    filled.BelongsTo user t := by
  have hcart : t.CartOf user filled.cart.id := by
    rw [← id]
    exact ownedBy_of_mem divided.carts_key stored same
  refine ⟨owner, hcart, fun line hline => ?_⟩
  rw [listed, mem_sortBy, List.mem_filter, decide_eq_true_eq] at hline
  rw [hline.2]
  exact hcart

section Answers

variable {context : Context} {p p' : Progress} {user : UserId} {id : OrderId}

/-- Whatever is no checkout leaves the orders and what is on record of them. -/
theorem Operation.sameOrders_exec {operation : Operation} (h : operation.checkout? = none)
    (context : Context) (p : Progress) :
    p.tables.SameOrders (operation.perform.exec context p).2.tables := by
  rcases operation.does_exec context p with ⟨hsame, -⟩ | ⟨events, heffect, -⟩
  · rw [hsame]
    exact .refl _
  · exact .effect heffect h

/-- What a user's cancellation answers is an order of the user's. -/
theorem Order.exists_fixed_of_returns_cancel {answer : Order}
    (h : Returns (cancel user id) context p answer p') :
    ∃ order : Order, p.tables.orders.find? (fun row => row.id = id) = some order.row ∧
      order.userId = user ∧ answer.fixed = order.fixed := by
  obtain ⟨order, items, payment, t, events, hcancelled, hends, -⟩ := calledOff_of_returns_cancel h
  refine ⟨order, hcancelled.order_found, hcancelled.owner, ?_⟩
  have hfixed : ((order.calledOff payment).1.stamp context.clock.store).fixed = order.fixed :=
    fixed_calledOff order payment
  cases hends with
  | undue => exact hfixed
  | refunded => exact hfixed
  | refundFailed => exact hfixed

/-- What a checkout answers is the user's new order. -/
theorem Order.belongsTo_of_returns_place {address : AddressId} {method : PaymentMethod}
    {source : Source} {details : OrderDetails} (coherent : p'.tables.Coherent)
    (divided : p'.tables.Divided)
    (h : Returns (place user address method source) context p details p') :
    details.BelongsTo user p'.tables := by
  obtain ⟨order, middle, hcommitted, htables, hid, hdetails⟩ := storedIn_of_returns_place h
  obtain ⟨_, _, _, _, hplaced⟩ := placed_of_returns rfl hcommitted.without_fault
  have hmem : order.row ∈ p'.tables.orders := by
    rw [htables]
    exact hplaced.order_mem
  have hsame : details.order.row = order.row :=
    eq_of_key_eq coherent.orders_key (List.mem_of_find?_eq_some hdetails.order_found) hmem hid
  refine hdetails.belongsTo coherent divided ?_
  rw [row_injective hsame, hplaced.order_eq]
  rfl

/-- A page of a user's orders has no order of anyone else. -/
theorem Order.belongsTo_of_returns_page {page limit : Int} {found : OrderPage}
    (coherent : p.tables.Coherent) (h : Returns (pageFor user page limit) context p found p') :
    ∀ order ∈ found.orders, order.BelongsTo user p.tables := by
  obtain ⟨⟨⟩, _, hfirst, h⟩ := returns_bind.mp h.without_fault
  obtain ⟨-, rfl⟩ := returns_require.mp hfirst
  obtain ⟨⟨⟩, _, hsecond, h⟩ := returns_bind.mp h
  obtain ⟨-, rfl⟩ := returns_require.mp hsecond
  obtain ⟨orders, listed, hlist, h⟩ := returns_bind.mp h
  obtain ⟨count, counted, -, h⟩ := returns_bind.mp h
  obtain ⟨rfl, -⟩ := returns_pure.mp h
  obtain ⟨rows, selected, hselect, hread⟩ := returns_bind.mp hlist
  obtain ⟨rfl, rfl⟩ := (Table.returns_select rfl).mp hselect
  obtain ⟨hrows, -⟩ := (returns_readRows fun _ _ => OrderRow.order?_eq_some_iff).mp hread
  intro order horder
  have hmem : order.row ∈ orders.map row := List.mem_map_of_mem horder
  rw [← hrows] at hmem
  have hrow := mem_sortBy.mp (List.mem_of_mem_drop (List.mem_of_mem_take hmem))
  obtain ⟨hstored, howner⟩ := List.mem_filter.mp hrow
  exact belongsTo_of_mem coherent hstored (of_decide_eq_true howner)

/-- The cart that a user gets is the user's. -/
theorem Cart.belongsTo_of_returns_fetchOrCreate {filled : FilledCart}
    (divided : p'.tables.Divided) (h : Returns (fetchOrCreate user) context p filled p') :
    filled.BelongsTo user p'.tables := by
  obtain ⟨cart, created, hcreated, h⟩ := returns_bind.mp h
  obtain ⟨items, last, hlines, h⟩ := returns_bind.mp h
  obtain ⟨rfl, rfl⟩ := returns_pure.mp h
  have htables : p'.tables = created.tables := hlines.tables_eq
  obtain ⟨hmem, howner⟩ := (returns_findOrCreate rfl hcreated.without_fault).mem
  obtain ⟨hlisted, -⟩ := (returns_lines rfl).mp hlines.without_fault
  rw [htables] at divided ⊢
  exact FilledCart.belongsTo_of_mem divided hmem rfl howner howner hlisted

/-- The cart that is answered when its lines are replaced is the user's. -/
theorem Cart.belongsTo_of_returns_replace {requests : List LineRequest} {filled : FilledCart}
    (divided : p'.tables.Divided) (h : Returns (replace user requests) context p filled p') :
    filled.BelongsTo user p'.tables := by
  have hrefilled := refilled_of_returns rfl h.without_fault
  obtain ⟨middle, hheld, hcarts⟩ := hrefilled.held
  obtain ⟨hmem, howner⟩ := hheld.mem
  have htouched : { filled.cart with updatedAt := context.clock.store } ∈ p'.tables.carts := by
    have hcarts : p'.tables.carts = _ := hcarts
    rw [hcarts, mem_updateWhere]
    exact ⟨filled.cart, hmem, (if_pos (decide_eq_true rfl)).symm⟩
  exact FilledCart.belongsTo_of_mem divided htouched rfl howner howner hrefilled.listed

/-- The order that a user's call is about is found and is the user's. -/
theorem Order.owner_of_returns {α : Type} {next : Order → Session α} {a : α}
    (calm : p.fault = none) (h : Returns (do
      let order ← found .notFound (← find id)
      order.requireOwner user
      next order) context p a p') :
    ∃ order : Order, p.tables.orders.find? (fun row => row.id = id) = some order.row ∧
      order.userId = user ∧ Returns (next order) context p a p' := by
  simp only [returns_bind, returns_find calm, returns_found, returns_requireOwner, and_assoc,
    exists_and_left, exists_eq_left, exists_const] at h
  obtain ⟨_, hfound, order, rfl, howner, hrest⟩ := h
  exact ⟨order, hfound, howner, hrest⟩

/-- The order of which a user cancels an item is the user's. -/
theorem Order.belongsTo_of_returns_cancelItem {itemId : ItemId} {reason : String} {answer : Order}
    (coherent : p.tables.Coherent) (same : p.tables.SameOrders p'.tables)
    (h : Returns (cancelItem user id itemId reason) context p answer p') :
    answer.BelongsTo user p'.tables := by
  obtain ⟨order, item, items, payment, hcancelled, rfl, -⟩ := itemCancelled_of_returns_cancelItem h
  exact belongsTo_of_fixed coherent hcancelled.order_found hcancelled.owner
    hcancelled.amended.fixed same

/-- An order that a user reads is the user's. -/
theorem Order.belongsTo_of_returns_detailsFor {details : OrderDetails}
    (coherent : p'.tables.Coherent) (divided : p'.tables.Divided)
    (h : Returns (detailsFor user id) context p details p') : details.BelongsTo user p'.tables := by
  have htables : p'.tables = p.tables := h.tables_eq
  obtain ⟨found, _, hdetails, hrest⟩ := returns_bind.mp h.without_fault
  obtain ⟨-, hstored, rfl⟩ := (returns_details rfl).mp hdetails
  obtain ⟨⟨⟩, _, hrequire, hanswer⟩ := returns_bind.mp hrest
  obtain ⟨howner, rfl⟩ := returns_requireOwner.mp hrequire
  obtain ⟨rfl, -⟩ := returns_pure.mp hanswer
  rw [htables] at coherent divided ⊢
  exact hstored.belongsTo coherent divided howner

/-- Items that a user reads are of an order of the user's. -/
theorem Order.belongsTo_of_returns_itemsFor {items : List OrderItem} (coherent : p.tables.Coherent)
    (same : p.tables.SameOrders p'.tables)
    (h : Returns (itemsFor user id) context p items p') :
    ∀ item ∈ items, p'.tables.OrderOf user item.orderId := by
  obtain ⟨order, hfound, howner, hlist⟩ := owner_of_returns rfl h.without_fault
  obtain ⟨hlisted, -⟩ := (OrderItem.returns_listFor rfl).mp hlist
  intro item hitem
  rw [(hlisted.mem_iff.mp hitem).2]
  exact same.orderOf_of_found coherent hfound howner

/-- A payment that a user opens is for an order of the user's. -/
theorem Payment.belongsTo_of_returns_createIntent {method : PaymentMethod} {intent : PaymentIntent}
    (coherent : p.tables.Coherent) (same : p.tables.SameOrders p'.tables)
    (h : Returns (createIntent user id method) context p intent p') :
    p'.tables.OrderOf user intent.payment.orderId := by
  obtain ⟨order, hopened, -, -⟩ := opened_of_returns_createIntent h
  rw [hopened.payment_eq]
  exact same.orderOf_of_found coherent hopened.order_found hopened.owner

/-- A payment that a user reads is for an order of the user's. -/
theorem Payment.belongsTo_of_returns_findForUser {payment : Payment} (coherent : p.tables.Coherent)
    (same : p.tables.SameOrders p'.tables)
    (h : Returns (findForUser user id) context p payment p') :
    p'.tables.OrderOf user payment.orderId := by
  obtain ⟨order, hfound, howner, hrest⟩ := Order.owner_of_returns rfl h.without_fault
  obtain ⟨found?, _, hfind, hsome⟩ := returns_bind.mp hrest
  obtain ⟨hstored, rfl⟩ := (returns_findForOrder rfl).mp hfind
  obtain ⟨rfl, -⟩ := returns_found.mp hsome
  rw [hstored.mem.2]
  exact same.orderOf_of_found coherent hfound howner

/-- What a user's call answers belongs to the user. -/
theorem Operation.belongsTo_of_returns {operation : Operation} {reply : Reply}
    (before : p.tables.Coherent) (coherent : p'.tables.Coherent) (divided : p'.tables.Divided)
    (sender : operation.user? = some user) (h : Returns operation.perform context p reply p') :
    reply.BelongsTo user p'.tables := by
  have hsame (hop : operation.checkout? = none) : p.tables.SameOrders p'.tables := by
    have hexec := operation.sameOrders_exec hop context p
    rwa [h] at hexec
  cases operation with
  | placeFromCart =>
    obtain rfl := Option.some.inj sender
    obtain ⟨details, hplace, rfl⟩ := returns_map.mp h
    exact Order.belongsTo_of_returns_place coherent divided hplace
  | placeDirect =>
    obtain rfl := Option.some.inj sender
    obtain ⟨details, hdirect, rfl⟩ := returns_map.mp h
    obtain ⟨⟨⟩, middle, hrequired, hplace⟩ := returns_bind.mp hdirect
    exact Order.belongsTo_of_returns_place coherent divided hplace
  | cancelItem =>
    obtain rfl := Option.some.inj sender
    obtain ⟨answer, hcancel, rfl⟩ := returns_map.mp h
    exact Order.belongsTo_of_returns_cancelItem before (hsame rfl) hcancel
  | cancelOrder =>
    obtain rfl := Option.some.inj sender
    obtain ⟨answer, hcancel, rfl⟩ := returns_map.mp h
    obtain ⟨order, hfound, howner, hfixed⟩ := Order.exists_fixed_of_returns_cancel hcancel
    exact Order.belongsTo_of_fixed before hfound howner hfixed (hsame rfl)
  | getOrder =>
    obtain rfl := Option.some.inj sender
    obtain ⟨details, hread, rfl⟩ := returns_map.mp h
    exact Order.belongsTo_of_returns_detailsFor coherent divided hread
  | listOrders =>
    obtain rfl := Option.some.inj sender
    obtain ⟨page, hpage, rfl⟩ := returns_map.mp h
    have htables : p'.tables = p.tables := hpage.tables_eq
    rw [htables]
    exact Order.belongsTo_of_returns_page before hpage
  | listItems =>
    obtain rfl := Option.some.inj sender
    obtain ⟨items, hitems, rfl⟩ := returns_map.mp h
    exact Order.belongsTo_of_returns_itemsFor before (hsame rfl) hitems
  | createIntent =>
    obtain rfl := Option.some.inj sender
    obtain ⟨intent, hcreate, rfl⟩ := returns_map.mp h
    exact Payment.belongsTo_of_returns_createIntent before (hsame rfl) hcreate
  | getPayment =>
    obtain rfl := Option.some.inj sender
    obtain ⟨payment, hpayment, rfl⟩ := returns_map.mp h
    exact Payment.belongsTo_of_returns_findForUser before (hsame rfl) hpayment
  | getCart =>
    obtain rfl := Option.some.inj sender
    obtain ⟨filled, hfetch, rfl⟩ := returns_map.mp h
    exact Cart.belongsTo_of_returns_fetchOrCreate divided hfetch
  | replaceCart =>
    obtain rfl := Option.some.inj sender
    obtain ⟨filled, hreplace, rfl⟩ := returns_map.mp h
    exact Cart.belongsTo_of_returns_replace divided hreplace
  | _ => cases sender

end Answers

/-- A refunded payment is still that of its order. -/
theorem Payment.Refunded.orderId_eq {clock : Clock} {id : OrderId} {t t' : Tables} {order : Order}
    {payment refunded : Payment} {stored : PaymentRow} (sound : PaymentRow.Sound t.payments)
    (h : Refunded clock id t order payment stored t')
    (written : refunded.row = overwrite { payment with status := .refunded } clock.store stored) :
    refunded.orderId = id := by
  obtain ⟨hstored, hid⟩ := mem_of_find?_key h.row_found
  obtain ⟨hpayment, rfl⟩ := h.payment_found.mem
  rw [eq_of_key_eq sound.key hstored hpayment hid] at written
  exact congrArg (·.orderId) written

/-- What a user's call announces belongs to the user. -/
theorem Operation.Effect.events_belong {context : Context} {fault : Option Fault} {store : Store}
    {operation : Operation} {events : List Event} {t' : Tables} {user : UserId}
    (lawful : store.tables.Lawful) (coherent : t'.Coherent) (sender : operation.user? = some user)
    (h : operation.Effect context fault store events t') :
    ∀ event ∈ events, event.BelongsTo user t' := by
  have hsame (hop : operation.checkout? = none) : store.tables.SameOrders t' := .effect h hop
  have before := lawful.coherent
  cases h with
  | placed asked hasLines placed =>
    obtain rfl := Option.some.inj ((user?_of_checkout? asked).symm.trans sender)
    refine List.forall_mem_singleton.mpr (Order.belongsTo_of_mem coherent placed.order_mem ?_)
    rw [placed.order_eq]
    rfl
  | @itemCancelled user id itemId reason order answer item _ _ _ cancelled answered =>
    obtain rfl := Option.some.inj sender
    subst answered
    have hfound := List.find?_some cancelled.item_found
    rw [Bool.and_eq_true, decide_eq_true_eq, decide_eq_true_eq] at hfound
    have hitem := List.mem_of_find?_eq_some cancelled.item_found
    have howned := Tables.orderOf_of_found before cancelled.order_found cancelled.owner
    refine List.forall_mem_singleton.mpr ⟨Order.belongsTo_of_fixed before cancelled.order_found
      cancelled.owner cancelled.amended.fixed (hsame rfl), ?_⟩
    refine Tables.ItemOf.of_sameOrders ⟨⟨item.row, hitem, hfound.1⟩, fun row hrow hid => ?_⟩
      (hsame rfl)
    rw [eq_of_key_eq before.items_key hrow hitem (hid.trans hfound.1.symm), hfound.2]
    exact howned
  | orderCancelled cancelled answered undue =>
    obtain rfl := Option.some.inj sender
    subst answered
    exact List.forall_mem_singleton.mpr (Order.belongsTo_of_fixed before cancelled.order_found
      cancelled.owner (cancelled.amended before).fixed (hsame rfl))
  | orderRefunded cancelled answered due refund written =>
    obtain rfl := Option.some.inj sender
    subst answered
    have hsettled := cancelled.settled_of_refundDue before lawful.settled due
    refine List.forall_mem_cons.mpr ⟨Order.belongsTo_of_fixed before cancelled.order_found
      cancelled.owner (cancelled.amended before).fixed (hsame rfl),
      List.forall_mem_singleton.mpr ?_⟩
    rw [Event.BelongsTo, refund.orderId_eq hsettled.sound written]
    exact (hsame rfl).orderOf_of_found before cancelled.order_found cancelled.owner
  | refundFailed cancelled answered due failed =>
    obtain rfl := Option.some.inj sender
    subst answered
    refine List.forall_mem_cons.mpr ⟨Order.belongsTo_of_fixed before cancelled.order_found
      cancelled.owner (cancelled.amended before).fixed (hsame rfl),
      List.forall_mem_singleton.mpr ?_⟩
    exact (hsame rfl).orderOf_of_found before cancelled.order_found cancelled.owner
  | intentCreated opened =>
    obtain rfl := Option.some.inj sender
    refine List.forall_mem_singleton.mpr ?_
    rw [Event.BelongsTo, opened.payment_eq]
    exact (hsame rfl).orderOf_of_found before opened.order_found opened.owner
  | cartCreated => exact List.forall_mem_nil _
  | cartReplaced => exact List.forall_mem_nil _
  | statusChanged => cases sender
  | paymentConfirmed => cases sender
  | refunded => cases sender
  | productRevised => cases sender

end Storefront
