import Storefront.Proofs.Catalog.Supply

/-!
What the cancellation of all that is left of an order comes to. Apart from the marks that it leaves,
which are reasons and times, it does not matter in how many steps it is made and in which order: the
cancellation of an item does not change what the cancellation of the rest leads to.
-/

namespace Storefront

def Product.unmarked (row : Product) : Product :=
  { row with updatedAt := ⟨0, 0⟩ }

def OrderRow.unmarked (row : OrderRow) : OrderRow :=
  { row with updatedAt := ⟨0, 0⟩ }

def PaymentRow.unmarked (row : PaymentRow) : PaymentRow :=
  { row with updatedAt := ⟨0, 0⟩ }

def ItemRow.unmarked (row : ItemRow) : ItemRow :=
  { row with cancellationReason := none, cancelledAt := none, updatedAt := ⟨0, 0⟩ }

/-- The tables without the marks of cancellations: their reasons and times, and the times of the
last changes of products, orders, items and payments. -/
def Tables.unmarked (t : Tables) : Tables :=
  { t with
    products := t.products.map Product.unmarked
    orders := t.orders.map OrderRow.unmarked
    orderItems := t.orderItems.map ItemRow.unmarked
    payments := t.payments.map PaymentRow.unmarked }

/-- A product with some more units in stock. -/
def Product.withUnits (units : ProductId → Int) (row : Product) : Product :=
  { row with stock := row.stock + units row.id }

/-- The items with all those of an order cancelled. -/
def ItemRow.cancelOrder (id : OrderId) (rows : List ItemRow) : List ItemRow :=
  updateWhere (fun row => row.orderId = id)
    (fun row => { row with status := word ItemStatus.cancelled }) rows

/-- How many units of a product are open in an order. -/
def Tables.openUnits (id : OrderId) (t : Tables) (product : ProductId) : Int :=
  ItemRow.openQuantity product (ItemRow.ofOrder id t.orderItems)

/-- The tables once every item of an order is cancelled and what was open of them is back in
stock. -/
def Tables.withdrawAll (id : OrderId) (t : Tables) : Tables :=
  { t with
    products := t.products.map (Product.withUnits (t.openUnits id))
    orderItems := ItemRow.cancelOrder id t.orderItems }

/-- A change after which nothing is seen of the one before it. -/
theorem updateWhere_absorb {α : Type} {p : α → Bool} {f g : α → α} (hp : ∀ row, p (g row) = p row)
    (h : ∀ row, f (g row) = f row) (rows : List α) :
    updateWhere p f (updateWhere p g rows) = updateWhere p f rows := by
  rw [updateWhere, updateWhere, List.map_map, updateWhere]
  refine List.map_congr_left fun row _ => ?_
  by_cases hrow : p row
  · simp [hrow, hp, h]
  · simp [hrow]

/-- A change seen through a map that hides part of the rows. -/
theorem map_updateWhere_comm {α : Type} {p : α → Bool} {f g : α → α} {hide : α → α}
    (hp : ∀ row, p (hide row) = p row) (h : ∀ row, hide (f row) = g (hide row)) (rows : List α) :
    (updateWhere p f rows).map hide = updateWhere p g (rows.map hide) := by
  rw [updateWhere, updateWhere, List.map_map, List.map_map]
  refine List.map_congr_left fun row _ => ?_
  by_cases hrow : p row
  · simp [hrow, hp, h]
  · simp [hrow, hp]

namespace Tables

variable {t t' : Tables} {id : OrderId}

theorem unmarked_amend (now : Instant) (change : Order × Option Payment) (t : Tables) :
    (t.amend now change).unmarked = t.unmarked.amend ⟨0, 0⟩ change := by
  have horders : (change.1.writeTo now t.orders).map OrderRow.unmarked =
      change.1.writeTo ⟨0, 0⟩ (t.orders.map OrderRow.unmarked) := by
    rw [Order.writeTo, Order.writeTo]
    apply map_updateWhere_comm <;> exact fun _ => rfl
  have hpayments : (Payment.writeTo now change.2 t.payments).map PaymentRow.unmarked =
      Payment.writeTo ⟨0, 0⟩ change.2 (t.payments.map PaymentRow.unmarked) := by
    cases change.2 with
    | none => rfl
    | some payment =>
      rw [Payment.writeTo, Payment.writeTo]
      apply map_updateWhere_comm <;> exact fun _ => rfl
  simp only [amend, unmarked, horders, hpayments]

/-- Of an order that is written back twice only the last writing shows. -/
theorem amend_amend {order : Order} {change : Order × Option Payment} (hid : change.1.id = order.id)
    (now now' : Instant) (t : Tables) :
    (t.amend now (order, none)).amend now' change = t.amend now' change := by
  have horders : change.1.writeTo now' (order.writeTo now t.orders) =
      change.1.writeTo now' t.orders := by
    rw [Order.writeTo, Order.writeTo, ← hid, Order.writeTo]
    apply updateWhere_absorb <;> exact fun _ => rfl
  simp only [amend, horders, Payment.writeTo]

theorem withdrawAll_amend (now : Instant) (change : Order × Option Payment) :
    (t.amend now change).withdrawAll id = (t.withdrawAll id).amend now change :=
  rfl

/-- There is nothing to withdraw from an order of which all items are cancelled. -/
theorem withdrawAll_eq_self
    (h : ∀ row ∈ ItemRow.ofOrder id t.orderItems, row.status = word ItemStatus.cancelled) :
    t.withdrawAll id = t := by
  have hunits (product : ProductId) : t.openUnits id product = 0 := by
    rw [openUnits, ItemRow.openQuantity, List.filter_eq_nil_iff.mpr]
    · rfl
    · intro row hrow
      simp [h row hrow]
  have hproducts : t.products.map (Product.withUnits (t.openUnits id)) = t.products := by
    refine (List.map_congr_left fun row _ => ?_).trans (List.map_id t.products)
    rw [Product.withUnits, hunits, Int.add_zero]
    rfl
  have hitems : ItemRow.cancelOrder id t.orderItems = t.orderItems := by
    refine (List.map_congr_left fun row hrow => ?_).trans (List.map_id t.orderItems)
    by_cases hown : row.orderId = id
    · have hstatus := h row (List.mem_filter.mpr ⟨hrow, decide_eq_true hown⟩)
      simp [hown, ← hstatus]
    · simp [hown]
  rw [withdrawAll, hproducts, hitems]

end Tables

/-- Units that are put back into stock no longer have to be. -/
theorem Product.map_withUnits_writeTo {product : Product} {rows : List Product}
    {units units' : ProductId → Int} {quantity : Int} (unique : (rows.map (·.id)).Nodup)
    (found : rows.find? (fun row => row.id = product.id) = some product)
    (hmoved : units' product.id = units product.id - quantity)
    (hothers : ∀ id ≠ product.id, units' id = units id) (now : Instant) :
    ((writeTo { product with stock := product.stock + quantity } now rows).map
        (withUnits units')).map unmarked =
      (rows.map (withUnits units)).map unmarked := by
  obtain ⟨hproduct, -⟩ := mem_of_find?_key found
  rw [writeTo, updateWhere, List.map_map, List.map_map, List.map_map]
  refine List.map_congr_left fun row hrow => ?_
  simp only [Function.comp_apply]
  by_cases hsame : row.id = product.id
  · obtain rfl : row = product := eq_of_key_eq unique hrow hproduct hsame
    have hstock : row.stock + quantity + units' row.id = row.stock + units row.id := by omega
    simp [overwrite, withUnits, unmarked, hstock]
  · simp [hsame, withUnits, hothers row.id hsame]

namespace OrderItem

variable {clock : Clock} {reason : String} {t t' : Tables} {id : OrderId} {item : OrderItem}
  {items : List OrderItem}

/-- An item that is cancelled before its order shows no more than that it is cancelled. -/
theorem Withdrawn.unmarked_cancelOrder (coherent : t.Coherent)
    (stored : item.row ∈ t.orderItems) (own : item.orderId = id)
    (h : Withdrawn clock reason [item] t t') :
    (ItemRow.cancelOrder id t'.orderItems).map ItemRow.unmarked =
      (ItemRow.cancelOrder id t.orderItems).map ItemRow.unmarked := by
  rw [h.orderItems_eq, ItemRow.cancelAll_cons, ItemRow.cancelAll_nil]
  simp only [ItemRow.cancelOrder, updateWhere, List.map_map]
  refine List.map_congr_left fun row hrow => ?_
  simp only [Function.comp_apply]
  by_cases hsame : row.id = item.id
  · obtain rfl : row = item.row := eq_of_key_eq coherent.items_key hrow stored hsame
    have hown : item.row.orderId = id := own
    have hcancelled : (item.row.cancel clock reason).orderId = id := own
    simp only [hsame, hown, hcancelled, decide_true, if_true]
    rfl
  · simp [hsame]

theorem Withdrawn.ofOrder_eq (h : Withdrawn clock reason [item] t t') :
    ItemRow.ofOrder id t'.orderItems =
      updateWhere (fun row => row.id = item.id) (ItemRow.cancel clock reason)
        (ItemRow.ofOrder id t.orderItems) := by
  rw [h.orderItems_eq, ItemRow.cancelAll_cons, ItemRow.cancelAll_nil]
  exact filter_updateWhere fun _ => rfl

/-- What is open in an order once one of its items is cancelled. -/
theorem Withdrawn.openUnits_eq (coherent : t.Coherent) (stored : item.row ∈ t.orderItems)
    (hopen : item.status.isCancellable) (own : item.orderId = id)
    (h : Withdrawn clock reason [item] t t') (product : ProductId) :
    t'.openUnits id product =
      t.openUnits id product - if item.productId = product then item.quantity else 0 := by
  have hunique : ((ItemRow.ofOrder id t.orderItems).map (·.id)).Nodup :=
    coherent.items_key.sublist (List.filter_sublist.map _)
  have hmem : item.row ∈ ItemRow.ofOrder id t.orderItems :=
    List.mem_filter.mpr ⟨stored, decide_eq_true own⟩
  rw [Tables.openUnits, h.ofOrder_eq]
  exact ItemRow.openQuantity_cancel hunique hmem (status_row_ne hopen) product

/-- The cancellation of an item does not change what that of the whole order leads to. -/
theorem Withdrawn.unmarked_withdrawOne (coherent : t.Coherent)
    (supplied : t.Supplied) (stored : item.row ∈ t.orderItems)
    (hopen : item.status.isCancellable) (own : item.orderId = id)
    (h : Withdrawn clock reason [item] t t') :
    (t'.withdrawAll id).unmarked = (t.withdrawAll id).unmarked := by
  have hunits := h.openUnits_eq coherent stored hopen own
  have hitems := h.unmarked_cancelOrder coherent stored own
  have hproducts : (t'.products.map (Product.withUnits (t'.openUnits id))).map Product.unmarked =
      (t.products.map (Product.withUnits (t.openUnits id))).map Product.unmarked := by
    obtain _ | @⟨_, _, product, _, _, hfound, -, hrest⟩ := h.restocked
    generalize t'.products = products at hrest
    cases hrest
    have hid : product.id = item.productId := (mem_of_find?_key hfound).2
    rw [← hid] at hfound
    refine Product.map_withUnits_writeTo supplied.products_key hfound ?_ (fun other hother => ?_)
      clock.store
    · rw [hunits, if_pos hid.symm]
    · rw [hunits, if_neg fun hsame => hother (hsame.symm.trans hid.symm), Int.sub_zero]
  obtain ⟨products, -, rfl⟩ := h
  rw [Tables.unmarked, Tables.unmarked]
  simp only [Tables.withdrawAll] at hproducts hitems ⊢
  rw [hproducts, hitems]

/-- Items may be cancelled in any order before the rest of their order is. -/
theorem Withdrawn.unmarked_withdrawAll (coherent : t.Coherent)
    (supplied : t.Supplied) (hopen : OpenIn t items)
    (own : ∀ item ∈ items, item.orderId = id) (h : Withdrawn clock reason items t t') :
    (t'.withdrawAll id).unmarked = (t.withdrawAll id).unmarked := by
  induction items generalizing t with
  | nil =>
    obtain ⟨products, hrestocked, rfl⟩ := h
    cases hrestocked
    rw [ItemRow.cancelAll_nil]
  | cons item rest ih =>
    obtain ⟨middle, hone, hrest⟩ := Withdrawn.cons_iff.mp h
    obtain ⟨hitem, hothers⟩ := List.forall_mem_cons.mp own
    rw [ih (coherent.withdrawn hone) (supplied.withdrawn hone) (hopen.tail hone) hothers hrest]
    exact hone.unmarked_withdrawOne coherent supplied (hopen.stored item List.mem_cons_self)
      (hopen.cancellable item List.mem_cons_self) hitem

end OrderItem

/-- An amendment that cancels items of its order leaves the rest of them to be cancelled. -/
theorem Order.Amended.unmarked_withdrawAll {clock : Clock} {t t' : Tables} {order : Order}
    {items : List OrderItem} {change : Order × Option Payment} (coherent : t.Coherent)
    (supplied : t.Supplied) (h : Amended clock t order items change t') :
    (t'.withdrawAll order.id).unmarked =
      (t.withdrawAll order.id).unmarked.amend ⟨0, 0⟩ change := by
  obtain ⟨reason, withdrawn, hwithdrawn, rfl⟩ := h.changed
  have hrest := hwithdrawn.unmarked_withdrawAll coherent supplied h.items_open h.items_own
  rw [Tables.withdrawAll_amend, Tables.unmarked_amend, hrest]

end Storefront
