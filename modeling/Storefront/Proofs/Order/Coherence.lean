import Storefront.Proofs.Service.Effects

/-!
Orders and items that the service has written itself. Identifiers are unique, every row stands for
an order or an item, an item is either pending or cancelled and belongs to an order, and every order
has an item.
-/

namespace Storefront

/-- The orders and their items are as the service writes them. -/
structure Tables.Coherent (t : Tables) : Prop where
  orders_key : (t.orders.map (·.id)).Nodup
  items_key : (t.orderItems.map (·.id)).Nodup
  orders_read : ∀ row ∈ t.orders, ∃ order : Order, row = order.row
  items_read : ∀ row ∈ t.orderItems, ∃ item : OrderItem, row = item.row
  items_status : ∀ row ∈ t.orderItems,
    row.status = word ItemStatus.pending ∨ row.status = word ItemStatus.cancelled
  items_positive : ∀ row ∈ t.orderItems, 0 < row.quantity
  item_order : ∀ row ∈ t.orderItems, ∃ order ∈ t.orders, order.id = row.orderId
  order_item : ∀ order ∈ t.orders, ∃ row ∈ t.orderItems, row.orderId = order.id

/-- Different items that are in the store and can be cancelled. -/
structure OrderItem.OpenIn (t : Tables) (items : List OrderItem) : Prop where
  stored : ∀ item ∈ items, item.row ∈ t.orderItems
  cancellable : ∀ item ∈ items, item.status.isCancellable
  distinct : (items.map (·.id)).Nodup

/-- Some open items of an order are cancelled, and the order is written back with its payment. -/
structure Order.Amended (clock : Clock) (t : Tables) (order : Order) (items : List OrderItem)
    (change : Order × Option Payment) (t' : Tables) : Prop where
  order_found : t.orders.find? (fun row => row.id = order.id) = some order.row
  fixed : change.1.fixed = order.fixed
  items_open : OrderItem.OpenIn t items
  items_own : ∀ item ∈ items, item.orderId = order.id
  changed : ∃ reason withdrawn, OrderItem.Withdrawn clock reason items t withdrawn ∧
    t' = withdrawn.amend clock.store change

theorem OrderItem.ids_ofLines (order : OrderId) (now : Instant) (lines : List PricedLine)
    (id : ItemId) : ∀ item ∈ ofLines order now id lines, id ≤ item.id := by
  induction lines generalizing id with
  | nil => simp [ofLines]
  | cons line rest ih =>
    intro item hitem
    rw [ofLines, List.mem_cons] at hitem
    rcases hitem with rfl | hitem
    · exact Int.le_refl _
    · exact Int.le_of_lt (Int.lt_of_add_one_le (ih (id + 1) item hitem))

/-- The items of a new order have identifiers of their own. -/
theorem OrderItem.nodup_ofLines (order : OrderId) (now : Instant) (lines : List PricedLine)
    (id : ItemId) : ((ofLines order now id lines).map (·.id)).Nodup := by
  induction lines generalizing id with
  | nil => exact List.nodup_nil
  | cons line rest ih =>
    rw [ofLines, List.map_cons, List.nodup_cons]
    refine ⟨fun hmem => ?_, ih (id + 1)⟩
    obtain ⟨item, hitem, hid⟩ := List.mem_map.mp hmem
    have hlt : id < item.id :=
      Int.lt_of_add_one_le (ids_ofLines order now rest (id + 1) item hitem)
    rw [hid] at hlt
    exact Int.lt_irrefl id hlt

/-- Each item of a new order is pending and comes from a line. -/
theorem OrderItem.exists_line_of_mem {order : OrderId} {now : Instant} {lines : List PricedLine}
    {id : ItemId} {item : OrderItem} (h : item ∈ ofLines order now id lines) :
    ∃ line ∈ lines, item = ofLine order now item.id line := by
  induction lines generalizing id with
  | nil => simp [ofLines] at h
  | cons line rest ih =>
    rw [ofLines, List.mem_cons] at h
    rcases h with rfl | h
    · exact ⟨line, List.mem_cons_self, rfl⟩
    · obtain ⟨other, hother, heq⟩ := ih h
      exact ⟨other, List.mem_cons_of_mem line hother, heq⟩

theorem OrderItem.orderId_ofLines {order : OrderId} {now : Instant} {lines : List PricedLine}
    {id : ItemId} {item : OrderItem} (h : item ∈ ofLines order now id lines) :
    item.orderId = order := by
  obtain ⟨line, -, heq⟩ := exists_line_of_mem h
  rw [heq]
  rfl

/-- What is made of the items of a new order alone is made of its lines. -/
theorem OrderItem.map_ofLines {α : Type} {f : OrderItem → α} {g : PricedLine → α} {order : OrderId}
    {now : Instant} (h : ∀ id line, f (ofLine order now id line) = g line) (id : ItemId)
    (lines : List PricedLine) : (ofLines order now id lines).map f = lines.map g := by
  induction lines generalizing id with
  | nil => rfl
  | cons line rest ih => rw [ofLines, List.map_cons, List.map_cons, h, ih]

namespace Order

/-- The lines that are reserved are those that were asked for. -/
theorem Reserved.length_eq {clock : Clock} {prices : List Price} {requests : List LineRequest}
    {rows after : List Product} {lines : List PricedLine}
    (h : Reserved clock prices requests rows lines after) : lines.length = requests.length := by
  induction h with
  | nil rows => rfl
  | cons found priced natural reserved ih => rw [List.length_cons, List.length_cons, ih]

end Order

namespace LineRequest

theorem raise_ne_nil (product : ProductId) (quantity : Int) (lines : List LineRequest) :
    raise product quantity lines ≠ [] := by
  cases lines with
  | nil => simp [raise]
  | cons line rest =>
    unfold raise
    split_ifs <;> simp

theorem addTo_ne_nil {summed raised : List LineRequest} {line : LineRequest}
    (h : addTo summed line = .ok raised) : raised ≠ [] := by
  unfold addTo at h
  split_ifs at h
  obtain rfl : raise line.productId line.quantity summed = raised := Except.ok.inj h
  exact raise_ne_nil _ _ _

theorem foldlM_addTo_ne_nil {lines summed total : List LineRequest} (hsummed : summed ≠ [])
    (h : lines.foldlM addTo summed = .ok total) : total ≠ [] := by
  induction lines generalizing summed with
  | nil =>
    obtain rfl : summed = total := Except.ok.inj h
    exact hsummed
  | cons line rest ih =>
    rw [List.foldlM_cons] at h
    cases hadd : addTo summed line with
    | error cause =>
      rw [hadd] at h
      cases h
    | ok raised =>
      rw [hadd] at h
      exact ih (addTo_ne_nil hadd) h

theorem aggregate_ne_nil {lines total : List LineRequest} (hlines : lines ≠ [])
    (h : aggregate lines = .ok total) : total ≠ [] := by
  obtain ⟨line, rest, rfl⟩ := List.exists_cons_of_ne_nil hlines
  unfold aggregate at h
  rw [List.foldlM_cons] at h
  cases hadd : addTo [] line with
  | error cause =>
    rw [hadd] at h
    cases h
  | ok raised =>
    rw [hadd] at h
    exact foldlM_addTo_ne_nil (addTo_ne_nil hadd) h

end LineRequest

namespace Tables.Coherent

variable {t t' : Tables}

theorem of_empty (horders : t.orders = []) (hitems : t.orderItems = []) : t.Coherent := by
  constructor <;> simp [horders, hitems]

theorem congr (h : t.Coherent) (horders : t'.orders = t.orders)
    (hitems : t'.orderItems = t.orderItems) : t'.Coherent := by
  constructor
  · rw [horders]; exact h.orders_key
  · rw [hitems]; exact h.items_key
  · rw [horders]; exact h.orders_read
  · rw [hitems]; exact h.items_read
  · rw [hitems]; exact h.items_status
  · rw [hitems]; exact h.items_positive
  · rw [horders, hitems]; exact h.item_order
  · rw [horders, hitems]; exact h.order_item

end Tables.Coherent

namespace OrderItem

variable {id : OrderId} {items : List OrderItem} {rows : List ItemRow}

/-- The items listed for an order are the rows of the order. -/
theorem ListedIn.perm (h : ListedIn id items rows) :
    (items.map row).Perm (rows.filter fun row => row.orderId = id) := by
  rw [← h]
  exact sortBy_perm _ _

theorem ListedIn.mem_iff (h : ListedIn id items rows) {item : OrderItem} :
    item ∈ items ↔ item.row ∈ rows ∧ item.orderId = id := by
  rw [← List.mem_map_of_injective row_injective, h.perm.mem_iff, List.mem_filter, decide_eq_true_eq]
  rfl

theorem mem_openByProduct {item : OrderItem} :
    item ∈ openByProduct items ↔ item ∈ items ∧ item.status.isCancellable := by
  rw [openByProduct, List.mem_filter, mem_sortBy]

/-- The open items that are listed for an order are different where identifiers are unique. -/
theorem ListedIn.openIn {t : Tables} (h : ListedIn id items t.orderItems)
    (unique : (t.orderItems.map (·.id)).Nodup) : OpenIn t (openByProduct items) := by
  constructor
  · exact fun item hitem => (h.mem_iff.mp (mem_openByProduct.mp hitem).1).1
  · exact fun item hitem => (mem_openByProduct.mp hitem).2
  · have hitems : (items.map (·.id)).Nodup := by
      have hperm := h.perm.map (fun row => row.id)
      rw [List.map_map] at hperm
      refine hperm.nodup_iff.mpr (unique.sublist ?_)
      exact List.filter_sublist.map _
    have hsorted := ((sortBy_perm (fun a b => decide (a.productId ≤ b.productId)) items).map
      (·.id)).nodup_iff.mpr hitems
    exact hsorted.sublist (List.filter_sublist.map _)

theorem openIn_nil (t : Tables) : OpenIn t [] :=
  ⟨by simp, by simp, List.nodup_nil⟩

theorem openIn_singleton {t : Tables} {item : OrderItem} (stored : item.row ∈ t.orderItems)
    (cancellable : item.status.isCancellable) : OpenIn t [item] := by
  refine ⟨?_, ?_, List.nodup_singleton _⟩
  · rintro _ (_ | ⟨_, ⟨⟩⟩)
    exact stored
  · rintro _ (_ | ⟨_, ⟨⟩⟩)
    exact cancellable

end OrderItem

namespace Order

variable {clock : Clock} {t t' : Tables} {id : OrderId} {order : Order} {items : List OrderItem}
  {payment : Option Payment}

/-- A cancelled item amends its order. -/
theorem ItemCancelled.amended {user : UserId} {itemId : ItemId} {reason : String} {item : OrderItem}
    (h : ItemCancelled clock user id itemId reason t order item items payment t') :
    Amended clock t order [item] (order.lessItem items payment) t' := by
  obtain rfl := id_of_found h.order_found
  have hfound := List.find?_some h.item_found
  rw [Bool.and_eq_true, decide_eq_true_eq, decide_eq_true_eq] at hfound
  constructor
  · exact h.order_found
  · unfold lessItem
    split
    · exact fixed_settledOnCancel _ payment
    · rfl
  · exact OrderItem.openIn_singleton (List.mem_of_find?_eq_some h.item_found) h.item_open
  · rintro _ (_ | ⟨_, ⟨⟩⟩)
    exact hfound.2
  · exact ⟨reason, h.changed⟩

theorem fixed_calledOff (order : Order) (payment : Option Payment) :
    (order.calledOff payment).1.fixed = order.fixed := by
  unfold calledOff
  split <;> rfl

/-- An order is amended where its open items are cancelled. -/
theorem amended_of_openItems {reason : String} {change : Order × Option Payment}
    (coherent : t.Coherent)
    (found : t.orders.find? (fun row => row.id = order.id) = some order.row)
    (fixed : change.1.fixed = order.fixed)
    (listed : OrderItem.ListedIn order.id items t.orderItems)
    (changed : ∃ withdrawn,
      OrderItem.Withdrawn clock reason (OrderItem.openByProduct items) t withdrawn ∧
        t' = withdrawn.amend clock.store change) :
    Amended clock t order (OrderItem.openByProduct items) change t' := by
  constructor
  · exact found
  · exact fixed
  · exact listed.openIn coherent.items_key
  · intro item hitem
    exact (listed.mem_iff.mp (OrderItem.mem_openByProduct.mp hitem).1).2
  · exact ⟨reason, changed⟩

/-- An order is amended where none of its items is touched. -/
theorem amended_of_amend {change : Order × Option Payment}
    (found : t.orders.find? (fun row => row.id = order.id) = some order.row)
    (fixed : change.1.fixed = order.fixed) :
    Amended clock t order [] change (t.amend clock.store change) :=
  ⟨found, fixed, OrderItem.openIn_nil t, by simp, "", t, withdrawn_nil t, rfl⟩

/-- A cancelled order is amended. -/
theorem CalledOff.amended {user : UserId} (coherent : t.Coherent)
    (h : CalledOff clock user id t order items payment t') :
    Amended clock t order (OrderItem.openByProduct items) (order.calledOff payment) t' := by
  obtain rfl := id_of_found h.order_found
  exact amended_of_openItems coherent h.order_found (fixed_calledOff order payment) h.items_listed
    h.changed

/-- An order that is moved is amended. -/
theorem Moved.amended {next : OrderStatus} (coherent : t.Coherent)
    (h : Moved clock id next t order items payment t') :
    Amended clock t order (withdrawnBy next items) (order.moved next clock.wall payment) t' := by
  obtain rfl := id_of_found h.order_found
  have hfixed := fixed_moved order next clock.wall payment
  have hchanged := h.changed
  unfold withdrawnBy at hchanged ⊢
  by_cases hnext : next = .cancelled
  · rw [if_pos hnext] at hchanged ⊢
    exact amended_of_openItems coherent h.order_found hfixed (h.items_listed hnext) hchanged
  · rw [if_neg hnext] at hchanged ⊢
    exact ⟨h.order_found, hfixed, OrderItem.openIn_nil t, by simp, _, hchanged⟩

end Order

theorem Payment.Refunded.amended {clock : Clock} {id : OrderId} {t t' : Tables} {order : Order}
    {payment : Payment} {stored : PaymentRow}
    (h : Refunded clock id t order payment stored t') :
    Order.Amended clock t order [] ({ order with paymentStatus := .refunded },
      some { payment with status := .refunded }) t' := by
  obtain rfl := Order.id_of_found h.order_found
  rw [h.changed]
  exact Order.amended_of_amend h.order_found rfl

theorem Payment.CalledBack.amended {clock : Clock} {reference reported : String} {t t' : Tables}
    {order : Order} {found payment : Payment}
    (h : CalledBack clock reference reported t order found payment .paid t') :
    Order.Amended clock t order [] (settledBy order payment clock.wall,
      some (payment.confirmed .paid clock.wall)) t' := by
  have hfound := h.order_found
  rw [← Order.id_of_found hfound] at hfound
  rw [h.changed]
  exact Order.amended_of_amend hfound rfl

namespace Order.Amended

variable {clock : Clock} {t t' : Tables} {order : Order} {items : List OrderItem}
  {change : Order × Option Payment}

theorem orders_eq (h : Amended clock t order items change t') :
    t'.orders = change.1.writeTo clock.store t.orders := by
  obtain ⟨reason, withdrawn, hwithdrawn, rfl⟩ := h.changed
  rw [Tables.amend, hwithdrawn.orders_eq]

theorem payments_eq (h : Amended clock t order items change t') :
    t'.payments = Payment.writeTo clock.store change.2 t.payments := by
  obtain ⟨reason, withdrawn, hwithdrawn, rfl⟩ := h.changed
  rw [Tables.amend, hwithdrawn.payments_eq]

theorem exists_orderItems_eq (h : Amended clock t order items change t') :
    ∃ reason, t'.orderItems = ItemRow.cancelAll clock reason items t.orderItems := by
  obtain ⟨reason, withdrawn, hwithdrawn, rfl⟩ := h.changed
  exact ⟨reason, hwithdrawn.orderItems_eq⟩

/-- An amendment touches no table but those of products, orders, items and payments. -/
theorem rest_eq (h : Amended clock t order items change t') :
    t' = { t with
      products := t'.products
      orders := t'.orders
      orderItems := t'.orderItems
      payments := t'.payments } := by
  obtain ⟨reason, withdrawn, ⟨products, -, rfl⟩, rfl⟩ := h.changed
  rfl

/-- A row with the identifier of a cancelled item is that item's row. -/
theorem exists_item (coherent : t.Coherent) (h : Amended clock t order items change t')
    {row : ItemRow} (hrow : row ∈ t.orderItems) (hid : row.id ∈ items.map (·.id)) :
    ∃ item ∈ items, row = item.row := by
  obtain ⟨item, hitem, heq⟩ := List.mem_map.mp hid
  exact ⟨item, hitem, eq_of_key_eq coherent.items_key hrow (h.items_open.stored item hitem)
    heq.symm⟩

/-- An order that was found has one row, and the row that it is written to says what it says. -/
theorem row_eq (coherent : t.Coherent) (h : Amended clock t order items change t')
    {row : OrderRow} (hrow : row ∈ t'.orders) :
    row = (change.1.stamp clock.store).row ∨ row ∈ t.orders ∧ row.id ≠ order.id := by
  have hfixed : change.1.id = order.id := id_of_fixed h.fixed
  rw [h.orders_eq] at hrow
  obtain ⟨old, hold, rfl⟩ := mem_updateWhere.mp hrow
  by_cases hid : old.id = order.id
  · left
    obtain ⟨hstored, -⟩ := mem_of_find?_key h.order_found
    have hsame : old = order.row := eq_of_key_eq coherent.orders_key hold hstored hid
    rw [hfixed, if_pos (decide_eq_true hid), hsame, overwrite_row h.fixed]
  · right
    rw [hfixed, if_neg fun hsame => hid (of_decide_eq_true hsame)]
    exact ⟨hold, hid⟩

/-- The orders stay the same orders. -/
theorem orderIds_eq (h : Amended clock t order items change t') :
    t'.orders.map (·.id) = t.orders.map (·.id) := by
  rw [h.orders_eq]
  exact map_updateWhere fun _ => rfl

/-- The amended order is found as it was written. -/
theorem found (h : Amended clock t order items change t') :
    t'.orders.find? (fun row => row.id = order.id) = some (change.1.stamp clock.store).row := by
  have hfixed : change.1.id = order.id := id_of_fixed h.fixed
  have hid : order.row.id = order.id := rfl
  rw [h.orders_eq, Order.writeTo, find?_updateWhere, h.order_found, Option.map_some, hfixed,
    if_pos (decide_eq_true hid), overwrite_row h.fixed]
  exact fun _ => rfl

end Order.Amended

namespace Order.Placed

variable {clock : Clock} {user : UserId} {addressId : AddressId} {method : PaymentMethod}
  {source : Source} {store : Store} {address : Address} {cart : Option CartId}
  {requests : List LineRequest} {lines : List PricedLine} {order : Order} {t' : Tables}

/-- The items that a checkout adds. -/
def itemsOf (clock : Clock) (store : Store) (order : Order) (lines : List PricedLine) :
    List OrderItem :=
  OrderItem.ofLines order.id clock.store store.sequences.orderItem lines

theorem orders_eq
    (h : Placed clock user addressId method source store address cart requests lines order t') :
    t'.orders = store.tables.orders ++ [order.row] := by
  obtain ⟨products, -, rfl⟩ := h.changed
  rfl

theorem order_mem
    (h : Placed clock user addressId method source store address cart requests lines order t') :
    order.row ∈ t'.orders := by
  rw [h.orders_eq]
  exact List.mem_append_right _ List.mem_cons_self

theorem orderItems_eq
    (h : Placed clock user addressId method source store address cart requests lines order t') :
    t'.orderItems =
      store.tables.orderItems ++ (itemsOf clock store order lines).map OrderItem.row := by
  obtain ⟨products, -, rfl⟩ := h.changed
  rfl

theorem payments_eq
    (h : Placed clock user addressId method source store address cart requests lines order t') :
    t'.payments = store.tables.payments := by
  obtain ⟨products, -, rfl⟩ := h.changed
  rfl

theorem reserved
    (h : Placed clock user addressId method source store address cart requests lines order t') :
    Reserved clock store.tables.productPrices requests store.tables.products lines t'.products := by
  obtain ⟨products, hproducts, rfl⟩ := h.changed
  exact hproducts

/-- The new items belong to the new order, have identifiers of their own and ask for something. -/
theorem of_mem_itemsOf {item : OrderItem}
    (h : Placed clock user addressId method source store address cart requests lines order t')
    (hitem : item ∈ itemsOf clock store order lines) :
    item.orderId = order.id ∧ item.status = .pending ∧ 0 < item.quantity ∧
      ∀ row ∈ store.tables.orderItems, row.id ≠ item.id := by
  obtain ⟨line, -, heq⟩ := OrderItem.exists_line_of_mem hitem
  have hstorable := h.items_storable item hitem
  simp only [OrderItem.isStorable, Bool.and_eq_true, List.all_eq_true,
    decide_eq_true_eq] at hstorable
  refine ⟨?_, ?_, hstorable.1.1.1.1.1.1.2, hstorable.2⟩
  · rw [heq]
    rfl
  · rw [heq]
    rfl

/-- A checkout that is performed has lines. -/
theorem lines_ne_nil {operation : Operation}
    (asked : operation.checkout? = some (user, addressId, method, source))
    (hasLines : operation.hasLines)
    (h : Placed clock user addressId method source store address cart requests lines order t') :
    lines ≠ [] := by
  have hrequests : requests ≠ [] := by
    cases h.requested with
    | cart found filled summed =>
      refine LineRequest.aggregate_ne_nil (fun hnone => filled ?_) summed
      rw [List.map_eq_nil_iff] at hnone
      exact sortBy_eq_nil.mp hnone
    | items summed =>
      refine LineRequest.aggregate_ne_nil (fun hnone => ?_) summed
      subst hnone
      cases operation with
      | placeDirect user address method items =>
        simp only [Operation.checkout?, Option.some.injEq, Prod.mk.injEq,
          Source.items.injEq] at asked
        obtain ⟨-, -, -, rfl⟩ := asked
        simp [Operation.hasLines] at hasLines
      | _ => cases asked
  intro hnone
  have hlength := h.reserved.length_eq
  rw [hnone] at hlength
  exact hrequests (List.length_eq_zero_iff.mp hlength.symm)

theorem exists_item (clock : Clock) (store : Store) (order : Order) (h : lines ≠ []) :
    ∃ item, item ∈ itemsOf clock store order lines := by
  obtain ⟨line, rest, rfl⟩ := List.exists_cons_of_ne_nil h
  exact ⟨_, List.mem_cons_self⟩

end Order.Placed

namespace Tables.Coherent

variable {clock : Clock} {t t' : Tables}

/-- Cancelling items keeps orders and items coherent. -/
theorem withdrawn {reason : String} {items : List OrderItem} (coherent : t.Coherent)
    (h : OrderItem.Withdrawn clock reason items t t') : t'.Coherent := by
  have hmem {row : ItemRow} (hrow : row ∈ t'.orderItems) :
      ∃ old ∈ t.orderItems, row = old ∨ row = old.cancel clock reason := by
    rw [h.orderItems_eq] at hrow
    obtain ⟨old, hold, rfl⟩ := mem_updateWhere.mp hrow
    refine ⟨old, hold, ?_⟩
    split
    · exact .inr rfl
    · exact .inl rfl
  constructor
  · rw [h.orders_eq]
    exact coherent.orders_key
  · rw [h.orderItems_eq, ItemRow.cancelAll, map_updateWhere]
    · exact coherent.items_key
    · exact fun _ => rfl
  · rw [h.orders_eq]
    exact coherent.orders_read
  · intro row hrow
    obtain ⟨old, hold, rfl | rfl⟩ := hmem hrow
    · exact coherent.items_read row hold
    · obtain ⟨item, rfl⟩ := coherent.items_read old hold
      exact ⟨{ item with
        status := .cancelled
        cancellationReason := some reason
        cancelledAt := some clock.wall
        updatedAt := clock.store }, rfl⟩
  · intro row hrow
    obtain ⟨old, hold, rfl | rfl⟩ := hmem hrow
    · exact coherent.items_status row hold
    · exact .inr rfl
  · intro row hrow
    obtain ⟨old, hold, rfl | rfl⟩ := hmem hrow
    · exact coherent.items_positive row hold
    · exact coherent.items_positive old hold
  · intro row hrow
    rw [h.orders_eq]
    obtain ⟨old, hold, rfl | rfl⟩ := hmem hrow
    · exact coherent.item_order row hold
    · exact coherent.item_order old hold
  · intro row hrow
    rw [h.orders_eq] at hrow
    obtain ⟨item, hitem, hid⟩ := coherent.order_item row hrow
    rw [h.orderItems_eq]
    refine ⟨_, mem_updateWhere.mpr ⟨item, hitem, rfl⟩, ?_⟩
    split <;> exact hid

/-- Writing back an order keeps orders and items coherent. -/
theorem amend (now : Instant) (change : Order × Option Payment) (coherent : t.Coherent) :
    (t.amend now change).Coherent := by
  have hmem {row : OrderRow} (hrow : row ∈ (t.amend now change).orders) :
      ∃ old ∈ t.orders, row = old ∨ row = change.1.overwrite now old := by
    obtain ⟨old, hold, rfl⟩ := mem_updateWhere.mp hrow
    refine ⟨old, hold, ?_⟩
    split
    · exact .inr rfl
    · exact .inl rfl
  constructor
  · rw [Tables.amend, Order.writeTo, map_updateWhere]
    · exact coherent.orders_key
    · exact fun _ => rfl
  · exact coherent.items_key
  · intro row hrow
    obtain ⟨old, hold, rfl | rfl⟩ := hmem hrow
    · exact coherent.orders_read row hold
    · obtain ⟨order, rfl⟩ := coherent.orders_read old hold
      exact ⟨{ order with
        finalTotal := change.1.finalTotal
        status := change.1.status
        paymentMethod := change.1.paymentMethod
        paymentStatus := change.1.paymentStatus
        paidAt := change.1.paidAt
        updatedAt := now }, rfl⟩
  · exact coherent.items_read
  · exact coherent.items_status
  · exact coherent.items_positive
  · intro row hrow
    obtain ⟨owner, howner, hid⟩ := coherent.item_order row hrow
    refine ⟨_, mem_updateWhere.mpr ⟨owner, howner, rfl⟩, ?_⟩
    split <;> exact hid
  · intro row hrow
    obtain ⟨old, hold, rfl | rfl⟩ := hmem hrow
    · exact coherent.order_item row hold
    · exact coherent.order_item old hold

/-- Amending an order keeps orders and items coherent. -/
theorem amended {order : Order} {items : List OrderItem} {change : Order × Option Payment}
    (coherent : t.Coherent) (h : Order.Amended clock t order items change t') : t'.Coherent := by
  obtain ⟨reason, withdrawn, hwithdrawn, rfl⟩ := h.changed
  exact (coherent.withdrawn hwithdrawn).amend clock.store change

/-- A checkout keeps orders and items coherent. -/
theorem placed {operation : Operation} {user : UserId} {addressId : AddressId}
    {method : PaymentMethod} {source : Order.Source} {store : Store} {address : Address}
    {cart : Option CartId} {requests : List LineRequest} {lines : List PricedLine} {order : Order}
    (coherent : store.tables.Coherent)
    (asked : operation.checkout? = some (user, addressId, method, source))
    (hasLines : operation.hasLines)
    (h : Order.Placed clock user addressId method source store address cart requests lines order
      t') : t'.Coherent := by
  have horders := h.orders_eq
  have hitems := h.orderItems_eq
  have hmem {row : ItemRow} (hrow : row ∈ t'.orderItems) : row ∈ store.tables.orderItems ∨
      ∃ item ∈ Order.Placed.itemsOf clock store order lines, item.row = row := by
    rw [hitems, List.mem_append, List.mem_map] at hrow
    exact hrow
  constructor
  · rw [horders]
    refine nodup_keys_append coherent.orders_key (List.nodup_singleton _) ?_
    rintro _ (_ | ⟨_, ⟨⟩⟩)
    exact h.order_fresh
  · rw [hitems]
    refine nodup_keys_append coherent.items_key ?_ ?_
    · rw [List.map_map]
      exact OrderItem.nodup_ofLines _ _ _ _
    · intro row hrow
      obtain ⟨item, hitem, rfl⟩ := List.mem_map.mp hrow
      exact (h.of_mem_itemsOf hitem).2.2.2
  · intro row hrow
    rw [horders, List.mem_append, List.mem_singleton] at hrow
    rcases hrow with hrow | rfl
    · exact coherent.orders_read row hrow
    · exact ⟨order, rfl⟩
  · intro row hrow
    rcases hmem hrow with hrow | ⟨item, -, rfl⟩
    · exact coherent.items_read row hrow
    · exact ⟨item, rfl⟩
  · intro row hrow
    rcases hmem hrow with hrow | ⟨item, hitem, rfl⟩
    · exact coherent.items_status row hrow
    · exact .inl (congrArg word (h.of_mem_itemsOf hitem).2.1)
  · intro row hrow
    rcases hmem hrow with hrow | ⟨item, hitem, rfl⟩
    · exact coherent.items_positive row hrow
    · exact (h.of_mem_itemsOf hitem).2.2.1
  · intro row hrow
    rw [horders]
    rcases hmem hrow with hrow | ⟨item, hitem, rfl⟩
    · obtain ⟨owner, howner, hid⟩ := coherent.item_order row hrow
      exact ⟨owner, List.mem_append_left _ howner, hid⟩
    · exact ⟨order.row, List.mem_append_right _ List.mem_cons_self,
        (h.of_mem_itemsOf hitem).1.symm⟩
  · intro row hrow
    rw [horders, List.mem_append, List.mem_singleton] at hrow
    rw [hitems]
    rcases hrow with hrow | rfl
    · obtain ⟨item, hitem, hid⟩ := coherent.order_item row hrow
      exact ⟨item, List.mem_append_left _ hitem, hid⟩
    · obtain ⟨item, hitem⟩ := Order.Placed.exists_item clock store order
        (h.lines_ne_nil asked hasLines)
      exact ⟨item.row, List.mem_append_right _ (List.mem_map_of_mem hitem),
        (h.of_mem_itemsOf hitem).1⟩

/-- What an operation does keeps orders and items coherent. -/
theorem effect {context : Context} {fault : Option Fault} {store : Store} {operation : Operation}
    {events : List Event} (coherent : store.tables.Coherent)
    (h : operation.Effect context fault store events t') : t'.Coherent := by
  cases h with
  | placed asked hasLines placed => exact coherent.placed asked hasLines placed
  | itemCancelled cancelled => exact coherent.amended cancelled.amended
  | orderCancelled cancelled => exact coherent.amended (cancelled.amended coherent)
  | orderRefunded cancelled answered due refund =>
    exact (coherent.amended (cancelled.amended coherent)).amended refund.amended
  | refundFailed cancelled => exact coherent.amended (cancelled.amended coherent)
  | statusChanged moved => exact coherent.amended (moved.amended coherent)
  | intentCreated opened =>
    rw [opened.changed]
    exact coherent.congr rfl rfl
  | @paymentConfirmed _ _ _ _ _ confirmation _ called changes =>
    cases confirmation with
    | alreadyPaid => exact absurd rfl changes
    | paid => exact coherent.amended called.amended
    | failed =>
      rw [called.changed]
      exact coherent.congr rfl rfl
  | refunded refund => exact coherent.amended refund.amended
  | cartCreated created =>
    rw [created.changed]
    exact coherent.congr rfl rfl
  | cartReplaced untouched =>
    rw [untouched]
    exact coherent.congr rfl rfl
  | productRevised found natural changed =>
    rw [changed]
    exact coherent.congr rfl rfl

end Tables.Coherent

/-- What a call or a request does keeps orders and items coherent. -/
theorem Step.coherent (currency : String) {step : Step} {store : Store} (served : step.IsServed)
    (coherent : store.tables.Coherent) : (step.run currency store).store.tables.Coherent := by
  apply step.keeps currency served coherent
  intro operation events t' _ heffect
  exact coherent.effect heffect

end Storefront
