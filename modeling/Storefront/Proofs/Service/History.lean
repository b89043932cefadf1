import Storefront.Proofs.Payment.Rows
import Storefront.Proofs.Purchase.Backing

/-!
What is on record for good. Orders, their items, their payments and the copies of addresses are
never removed, and most of their columns never change, whatever happens later to the addresses,
products, prices and carts that an order was made from. This holds of every store, by whomever it
was filled.
-/

namespace Storefront

/-- A row of an order without the columns that may change: identifier, user, total, discount,
address and time of creation are left. -/
def OrderRow.record (row : OrderRow) : OrderRow :=
  { row with
    finalTotal := 0
    status := ""
    paymentMethod := ""
    paymentStatus := ""
    paidAt := none
    updatedAt := ⟨0, 0⟩ }

/-- A row of an item without the columns that may change: those of its cancellation. -/
def ItemRow.record (row : ItemRow) : ItemRow :=
  { row with
    status := ""
    cancellationReason := none
    cancelledAt := none
    updatedAt := ⟨0, 0⟩ }

/-- A row of a payment without the columns that may change. -/
def PaymentRow.record (row : PaymentRow) : PaymentRow :=
  { row with
    status := ""
    failureReason := none
    paidAt := none
    updatedAt := ⟨0, 0⟩ }

/-- The orders with what is on record of them and their items, and the copies of their addresses,
are the same. -/
structure Tables.SameOrders (t t' : Tables) : Prop where
  copies : t'.orderAddresses = t.orderAddresses
  orders : t'.orders.map OrderRow.record = t.orders.map OrderRow.record
  orderItems : t'.orderItems.map ItemRow.record = t.orderItems.map ItemRow.record

/-- The payments with what is on record of them are still there, and each has its own identifier. -/
structure PaymentRow.Kept (rows rows' : List PaymentRow) : Prop where
  records : rows.map PaymentRow.record <+: rows'.map PaymentRow.record
  key : (rows'.map (·.id)).Nodup

/-- Every order, item, payment and copy of an address stands where it stood, with what is on record
of it; others may have been added behind. -/
structure Tables.Records (t t' : Tables) : Prop where
  copies : t.orderAddresses <+: t'.orderAddresses
  orders : t.orders.map OrderRow.record <+: t'.orders.map OrderRow.record
  orderItems : t.orderItems.map ItemRow.record <+: t'.orderItems.map ItemRow.record
  payments : PaymentRow.Kept t.payments t'.payments

/-- Whatever the step edits by hand is none of the tables that keep records. -/
def Step.SparesRecords (step : Step) : Prop :=
  ∀ edit, step.action = .edit edit →
    edit.table ∈ [TableName.addresses, .products, .productPrices, .carts, .cartItems]

/-- The payment that is written back, if there is one, is one of the rows and has its reference. -/
def Payment.Rewrites (rows : List PaymentRow) (next? : Option Payment) : Prop :=
  ∀ next, next? = some next → ∃ payment : Payment,
    payment.row ∈ rows ∧ next.id = payment.id ∧ next.gatewayId = payment.gatewayId

/-- A change keeps what it keeps of the rows that it is about. -/
theorem map_updateWhere_of_mem {α κ : Type} {p : α → Bool} {f : α → α} {rows : List α} {key : α → κ}
    (h : ∀ row ∈ rows, p row → key (f row) = key row) :
    (updateWhere p f rows).map key = rows.map key := by
  rw [updateWhere, List.map_map]
  refine List.map_congr_left fun row hrow => ?_
  by_cases hp : p row
  · simp [hp, h row hrow hp]
  · simp [hp]

namespace Payment

variable {id : OrderId} {now : Instant} {rows : List PaymentRow} {payment : Payment}
  {payment? next? : Option Payment}

theorem rewrites_none : Rewrites rows none := by
  simp [Rewrites]

/-- A payment that was read may be written back in another state. -/
theorem rewrites_of_mem (stored : payment.row ∈ rows) (status : PaymentStatus)
    (paidAt : Option Instant) (failureReason : Option String) :
    Rewrites rows (some { payment with status, paidAt, failureReason }) := by
  rintro _ ⟨⟩
  exact ⟨payment, stored, rfl, rfl⟩

theorem rewrites_calledOff (found : FoundIn id payment? rows) :
    Rewrites rows (calledOff payment?) := by
  intro next hnext
  obtain ⟨payment, hpayment, rfl⟩ := Option.map_eq_some_iff.mp hnext
  obtain ⟨rfl, -⟩ := Option.filter_eq_some_iff.mp hpayment
  exact ⟨payment, (mem_of_find?_key found).1, rfl, rfl⟩

theorem rewrites_paidOnDelivery {paidAt : Instant} (found : FoundIn id payment? rows) :
    Rewrites rows (Order.paidOnDelivery paidAt payment?) := by
  intro next hnext
  obtain ⟨payment, hpayment, rfl⟩ := Option.map_eq_some_iff.mp hnext
  obtain ⟨rfl, -⟩ := Option.filter_eq_some_iff.mp hpayment
  exact ⟨payment, (mem_of_find?_key found).1, rfl, rfl⟩

theorem rewrites_settledOnCancel {order : Order} (found : FoundIn id payment? rows) :
    Rewrites rows (order.settledOnCancel payment?).2 := by
  unfold Order.settledOnCancel
  split
  · intro next hnext
    obtain ⟨payment, rfl, rfl⟩ := Option.map_eq_some_iff.mp hnext
    exact ⟨payment, (mem_of_find?_key found).1, rfl, rfl⟩
  · exact rewrites_calledOff found

theorem rewrites_lessItem {order : Order} {items : List OrderItem}
    (found : Order.allCancelled items → FoundIn id payment? rows) :
    Rewrites rows (order.lessItem items payment?).2 := by
  unfold Order.lessItem
  split
  next hall => exact rewrites_settledOnCancel (found hall)
  next => exact rewrites_none

theorem rewrites_orderCalledOff {order : Order} (found : FoundIn id payment? rows) :
    Rewrites rows (order.calledOff payment?).2 := by
  unfold Order.calledOff
  split
  · exact rewrites_none
  · exact rewrites_calledOff found

theorem rewrites_moved {order : Order} {next : OrderStatus} (found : FoundIn id payment? rows) :
    Rewrites rows (order.moved next now payment?).2 := by
  cases next with
  | delivered => exact rewrites_paidOnDelivery found
  | cancelled => exact rewrites_settledOnCancel found
  | _ => exact rewrites_none

/-- Writing back a payment keeps the records of payments where identifiers are unique. -/
theorem records_writeTo (unique : (rows.map (·.id)).Nodup) (rewrites : Rewrites rows next?) :
    (writeTo now next? rows).map PaymentRow.record = rows.map PaymentRow.record := by
  cases next? with
  | none => rfl
  | some next =>
    obtain ⟨payment, hstored, hid, hreference⟩ := rewrites next rfl
    refine map_updateWhere_of_mem fun row hrow hsame => ?_
    have hrowId : row.id = next.id := of_decide_eq_true hsame
    obtain rfl := eq_of_key_eq unique hrow hstored (hrowId.trans hid)
    rw [PaymentRow.record, overwrite, hreference]
    rfl

end Payment

namespace Tables.SameOrders

variable {clock : Clock} {t t' t'' : Tables} {change : Order × Option Payment}

theorem refl (t : Tables) : t.SameOrders t :=
  ⟨rfl, rfl, rfl⟩

theorem trans (h : t.SameOrders t') (h' : t'.SameOrders t'') : t.SameOrders t'' :=
  ⟨h'.copies.trans h.copies, h'.orders.trans h.orders, h'.orderItems.trans h.orderItems⟩

/-- The orders go to the same copies of addresses. -/
theorem addressIds_eq (h : t.SameOrders t') :
    t'.orders.map (·.shippingAddressId) = t.orders.map (·.shippingAddressId) := by
  have haddress (rows : List OrderRow) : rows.map (·.shippingAddressId) =
      (rows.map OrderRow.record).map (·.shippingAddressId) := by
    rw [List.map_map]
    rfl
  rw [haddress, h.orders, ← haddress]

theorem withdrawn {reason : String} {items : List OrderItem}
    (h : OrderItem.Withdrawn clock reason items t t') : t.SameOrders t' := by
  have hitems : t'.orderItems.map ItemRow.record = t.orderItems.map ItemRow.record := by
    rw [h.orderItems_eq]
    exact map_updateWhere fun _ => rfl
  obtain ⟨products, -, rfl⟩ := h
  exact ⟨rfl, rfl, hitems⟩

theorem amend (now : Instant) (change : Order × Option Payment) :
    t.SameOrders (t.amend now change) :=
  ⟨rfl, map_updateWhere fun _ => rfl, rfl⟩

theorem amended {reason : String} {items : List OrderItem}
    (h : ∃ withdrawn, OrderItem.Withdrawn clock reason items t withdrawn ∧
      t' = withdrawn.amend clock.store change) : t.SameOrders t' := by
  obtain ⟨middle, hwithdrawn, rfl⟩ := h
  exact (withdrawn hwithdrawn).trans (amend clock.store change)

/-- Whatever is no checkout leaves the orders and what is on record of them. -/
theorem effect {context : Context} {fault : Option Fault} {store : Store} {operation : Operation}
    {events : List Event} (h : operation.Effect context fault store events t')
    (hop : operation.checkout? = none) : store.tables.SameOrders t' := by
  cases h with
  | placed asked => simp [hop] at asked
  | itemCancelled cancelled => exact amended cancelled.changed
  | orderCancelled cancelled => exact amended cancelled.changed
  | orderRefunded cancelled answered due refund =>
    rw [refund.changed]
    exact (amended cancelled.changed).trans (amend _ _)
  | refundFailed cancelled => exact amended cancelled.changed
  | statusChanged moved => exact amended moved.changed
  | intentCreated opened =>
    rw [opened.changed]
    exact ⟨rfl, rfl, rfl⟩
  | @paymentConfirmed _ _ _ _ _ confirmation _ called =>
    rw [called.changed]
    cases confirmation with
    | alreadyPaid => exact refl _
    | paid => exact amend _ _
    | failed => exact ⟨rfl, rfl, rfl⟩
  | refunded refund =>
    rw [refund.changed]
    exact amend _ _
  | cartCreated created =>
    rw [created.changed]
    exact ⟨rfl, rfl, rfl⟩
  | cartReplaced untouched =>
    rw [untouched]
    exact ⟨rfl, rfl, rfl⟩
  | productRevised found natural changed =>
    rw [changed]
    exact ⟨rfl, rfl, rfl⟩

end Tables.SameOrders

namespace PaymentRow.Kept

variable {clock : Clock} {t t' : Tables} {rows rows' rows'' : List PaymentRow}
  {next? : Option Payment}

theorem refl (key : (rows.map (·.id)).Nodup) : Kept rows rows :=
  ⟨List.prefix_rfl, key⟩

theorem trans (h : Kept rows rows') (h' : Kept rows' rows'') : Kept rows rows'' :=
  ⟨h.records.trans h'.records, h'.key⟩

theorem writeTo (now : Instant) (key : (rows.map (·.id)).Nodup)
    (rewrites : Payment.Rewrites rows next?) : Kept rows (Payment.writeTo now next? rows) := by
  constructor
  · exact Payment.records_writeTo key rewrites ▸ List.prefix_rfl
  · rw [Payment.map_writeTo fun _ _ => rfl]
    exact key

theorem amended {reason : String} {items : List OrderItem} {change : Order × Option Payment}
    (key : (t.payments.map (·.id)).Nodup) (rewrites : Payment.Rewrites t.payments change.2)
    (h : ∃ withdrawn, OrderItem.Withdrawn clock reason items t withdrawn ∧
      t' = withdrawn.amend clock.store change) : Kept t.payments t'.payments := by
  obtain ⟨middle, hwithdrawn, rfl⟩ := h
  rw [Tables.amend, hwithdrawn.payments_eq]
  exact writeTo clock.store key rewrites

theorem opened {currency : String} {user : UserId} {id : OrderId} {method : PaymentMethod}
    {number : Nat} {order : Order} {payment : Payment} (key : (t.payments.map (·.id)).Nodup)
    (h : Payment.Opened clock currency user id method number t order payment t') :
    Kept t.payments t'.payments := by
  rw [h.changed]
  constructor
  · rw [List.map_append]
    exact List.prefix_append _ _
  · refine nodup_keys_append key (List.nodup_singleton _) ?_
    rintro _ (_ | ⟨_, ⟨⟩⟩)
    exact h.fresh

theorem refunded {id : OrderId} {order : Order} {payment : Payment} {stored : PaymentRow}
    (key : (t.payments.map (·.id)).Nodup)
    (h : Payment.Refunded clock id t order payment stored t') : Kept t.payments t'.payments := by
  rw [h.changed]
  exact writeTo clock.store key
    (Payment.rewrites_of_mem (mem_of_find?_key h.payment_found).1 .refunded payment.paidAt
      payment.failureReason)

theorem calledBack {reference reported : String} {order : Order} {found payment : Payment}
    {confirmation : Payment.Confirmation} (key : (t.payments.map (·.id)).Nodup)
    (h : Payment.CalledBack clock reference reported t order found payment confirmation t') :
    Kept t.payments t'.payments := by
  have hstored := (mem_of_find?_key h.payment_found).1
  rw [h.changed]
  cases confirmation with
  | alreadyPaid => exact refl key
  | paid => exact writeTo clock.store key (Payment.rewrites_of_mem hstored .paid _ none)
  | failed => exact writeTo clock.store key (Payment.rewrites_of_mem hstored .failed _ _)

/-- Whatever an operation does, the payments are kept. -/
theorem effect {context : Context} {fault : Option Fault} {store : Store} {operation : Operation}
    {events : List Event} (key : (store.tables.payments.map (·.id)).Nodup)
    (h : operation.Effect context fault store events t') :
    Kept store.tables.payments t'.payments := by
  cases h with
  | placed asked hasLines placed =>
    rw [placed.payments_eq]
    exact refl key
  | itemCancelled cancelled =>
    exact amended key (Payment.rewrites_lessItem cancelled.payment_found) cancelled.changed
  | orderCancelled cancelled =>
    exact amended key (Payment.rewrites_orderCalledOff cancelled.payment_found) cancelled.changed
  | orderRefunded cancelled answered due refund =>
    have hfirst := amended key (Payment.rewrites_orderCalledOff cancelled.payment_found)
      cancelled.changed
    exact hfirst.trans (refunded hfirst.key refund)
  | refundFailed cancelled =>
    exact amended key (Payment.rewrites_orderCalledOff cancelled.payment_found) cancelled.changed
  | statusChanged moved =>
    exact amended key (Payment.rewrites_moved moved.payment_found) moved.changed
  | intentCreated intent => exact opened key intent
  | paymentConfirmed called => exact calledBack key called
  | refunded refund => exact refunded key refund
  | cartCreated created =>
    rw [created.changed]
    exact refl key
  | cartReplaced untouched =>
    rw [untouched]
    exact refl key
  | productRevised found natural changed =>
    rw [changed]
    exact refl key

end PaymentRow.Kept

namespace Tables.Records

variable {t t' t'' : Tables}

theorem refl (key : (t.payments.map (·.id)).Nodup) : t.Records t :=
  ⟨List.prefix_rfl, List.prefix_rfl, List.prefix_rfl, .refl key⟩

theorem trans (h : t.Records t') (h' : t'.Records t'') : t.Records t'' :=
  ⟨h.copies.trans h'.copies, h.orders.trans h'.orders, h.orderItems.trans h'.orderItems,
    h.payments.trans h'.payments⟩

theorem of_sameOrders (same : t.SameOrders t') (payments : PaymentRow.Kept t.payments t'.payments) :
    t.Records t' := by
  refine ⟨?_, ?_, ?_, payments⟩
  · exact same.copies ▸ List.prefix_rfl
  · exact same.orders ▸ List.prefix_rfl
  · exact same.orderItems ▸ List.prefix_rfl

/-- What an operation does leaves the records. -/
theorem effect {context : Context} {fault : Option Fault} {store : Store} {operation : Operation}
    {events : List Event} (key : (store.tables.payments.map (·.id)).Nodup)
    (h : operation.Effect context fault store events t') : store.tables.Records t' := by
  have hpayments := PaymentRow.Kept.effect key h
  cases hop : operation.checkout? with
  | none => exact of_sameOrders (.effect h hop) hpayments
  | some asked =>
    cases h with
    | placed asked hasLines placed =>
      obtain ⟨products, -, rfl⟩ := placed.changed
      refine ⟨List.prefix_append _ _, ?_, ?_, hpayments⟩
      · rw [List.map_append]
        exact List.prefix_append _ _
      · rw [List.map_append]
        exact List.prefix_append _ _
    | _ => cases hop

/-- An edit of a table that keeps no records leaves them. -/
theorem edited {edit : Edit} (key : (t.payments.map (·.id)).Nodup)
    (spared : edit.table ∈ [TableName.addresses, .products, .productPrices, .carts, .cartItems])
    (h : t.edit? edit = some t') : t.Records t' := by
  obtain ⟨table, id, columns⟩ := edit
  cases id with
  | number n =>
    simp only [edit?, Option.bind_eq_bind, Option.bind_eq_some_iff] at h
    obtain ⟨id, -, h⟩ := h
    simp only [List.mem_cons, List.not_mem_nil, or_false] at spared
    rcases spared with rfl | rfl | rfl | rfl | rfl
    case inr.inr.inr.inr => cases h
    all_goals
      obtain ⟨rows, -, hrows⟩ := Option.bind_eq_some_iff.mp h
      obtain rfl := Option.some.inj hrows
      exact of_sameOrders ⟨rfl, rfl, rfl⟩ (.refl key)
  | _ =>
    simp only [List.mem_cons, List.not_mem_nil, or_false] at spared
    rcases spared with rfl | rfl | rfl | rfl | rfl <;> cases h

/-- A step leaves the records, unless it edits them by hand. -/
theorem step (currency : String) {step : Step} {store : Store}
    (key : (store.tables.payments.map (·.id)).Nodup) (spared : step.SparesRecords) :
    store.tables.Records (step.run currency store).store.tables := by
  by_cases hserved : step.IsServed
  · exact Step.keeps currency hserved (refl key) fun _ _ _ _ h => effect key h
  · obtain ⟨edit, hedit⟩ := not_forall_not.mp hserved
    unfold Step.run
    rw [hedit]
    cases hdone : store.tables.edit? edit with
    | none =>
      simp only [hdone]
      exact refl key
    | some tables =>
      simp only [hdone]
      exact edited key (spared edit hedit) hdone

theorem storeAfter (currency : String) {steps : List Step} {start : Store}
    (key : (start.tables.payments.map (·.id)).Nodup) (spared : ∀ step ∈ steps, step.SparesRecords) :
    start.tables.Records (Storefront.storeAfter currency steps start).tables :=
  storeAfter_induction (I := fun store => start.tables.Records store.tables) (refl key)
    fun other hother _ hstore =>
      hstore.trans (step currency hstore.payments.key (spared other hother))

end Tables.Records

theorem Step.IsServed.sparesRecords {step : Step} (h : step.IsServed) : step.SparesRecords :=
  fun edit hedit => absurd hedit (h edit)

/-- A payment on record is found again. -/
theorem PaymentRow.Kept.exists_record_eq {rows rows' : List PaymentRow} (h : Kept rows rows')
    {row : PaymentRow} (hrow : row ∈ rows) : ∃ later ∈ rows', later.record = row.record :=
  List.mem_map.mp (h.records.subset (List.mem_map_of_mem hrow))

/-- Whatever is called, requested or edited in the tables of addresses, products, prices and carts:
no order, item, payment or copy of an address that was stored at some moment of a run is removed in
the rest of it, no copy of an address changes, and what is on record of an order, an item or a
payment stays as it is. The store may be any in which identifiers of payments are unique. -/
theorem history_kept (currency : String) (before after : List Step) (start : Store)
    (key : (start.tables.payments.map (·.id)).Nodup)
    (spared : ∀ step ∈ before ++ after, step.SparesRecords) :
    (storeAfter currency before start).tables.Records
      (storeAfter currency (before ++ after) start).tables := by
  have hbefore : ∀ step ∈ before, step.SparesRecords :=
    fun step hstep => spared step (List.mem_append_left _ hstep)
  have hafter : ∀ step ∈ after, step.SparesRecords :=
    fun step hstep => spared step (List.mem_append_right _ hstep)
  have hmiddle := Tables.Records.storeAfter currency key hbefore
  rw [storeAfter_append]
  exact .storeAfter currency hmiddle.payments.key hafter

/-- The address and the price of what was bought are edited, and the order is cancelled. -/
def Step.revisedAfterwards : List Step :=
  [⟨⟨⟨0, 0⟩, ⟨0, 0⟩⟩, none, .edit ⟨.addresses, .int 6, [("city", .string "Elsewhere")]⟩⟩,
    ⟨⟨⟨0, 0⟩, ⟨0, 0⟩⟩, none, .edit ⟨.productPrices, .int 1, [("price", .string "99.00")]⟩⟩,
    ofCall (.cancelOrder 7 1)]

/-- The order still goes to the old address at the old price. -/
theorem history_revisedAfterwards :
    ((storeAfter "INR" (Step.paidFor ++ Step.revisedAfterwards) .stocked).tables.addresses.map
        (·.destination.city) = ["Elsewhere"] ∧
      (storeAfter "INR" (Step.paidFor ++ Step.revisedAfterwards) .stocked).tables.orderAddresses.map
        (·.destination.city) = ["Town"]) ∧
      (storeAfter "INR" Step.paidFor .stocked).tables.Records
        (storeAfter "INR" (Step.paidFor ++ Step.revisedAfterwards) .stocked).tables := by
  refine ⟨by decide +kernel, history_kept "INR" Step.paidFor Step.revisedAfterwards .stocked ?_ ?_⟩
  · exact List.nodup_nil
  · simp [Step.SparesRecords, Step.paidFor, Step.revisedAfterwards, Step.ofCall]

end Storefront
