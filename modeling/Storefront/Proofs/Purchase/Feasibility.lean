import Storefront.Proofs.Catalog.Conservation
import Storefront.Proofs.Catalog.Supply
import Storefront.Proofs.Purchase.Amounts

/-!
Cancellations that cannot fail. In tables as a run leaves them every row that is read stands for
something, every item that is cancelled has a product to go back to, and every amount fits its
column; so a cancellation that is allowed and meets no fault succeeds.
-/

namespace Storefront

open Session

/-- Tables as a run leaves them that began without orders. -/
structure Tables.Ready (t : Tables) : Prop where
  lawful : t.Lawful
  composed : t.Composed
  supplied : t.Supplied

/-- The order of a purchase and its payment can be read and written back. -/
structure Purchase.Writable (purchase : Purchase) (p : Progress) : Prop where
  calm : p.fault = none
  order_found :
    p.tables.orders.find? (fun row => row.id = purchase.order.id) = some purchase.order.row
  payment_found : Payment.FoundIn purchase.order.id purchase.payment p.tables.payments
  sound : PaymentRow.Sound p.tables.payments

variable {context : Context} {p p' : Progress} {purchase : Purchase} {reason : String}

namespace OrderItem

variable {t : Tables} {id : OrderId} {items : List OrderItem}

/-- The items of an order can be listed. -/
theorem exists_listedIn (coherent : t.Coherent) (id : OrderId) :
    ∃ items, ListedIn id items t.orderItems := by
  refine exists_map_eq fun row hrow => coherent.items_read row ?_
  exact (List.mem_filter.mp (mem_sortBy.mp hrow)).1

/-- An item of an order is found by its identifier and that of the order. -/
theorem find?_of_mem (coherent : t.Coherent) {item : OrderItem} (stored : item.row ∈ t.orderItems) :
    t.orderItems.find? (fun row => row.id = item.id && row.orderId = item.orderId) =
      some item.row := by
  obtain ⟨row, hrow⟩ : ∃ row, t.orderItems.find?
      (fun row => row.id = item.id && row.orderId = item.orderId) = some row := by
    rw [← Option.isSome_iff_exists, List.find?_isSome]
    exact ⟨item.row, stored, by simp [OrderItem.row]⟩
  have hkeys := List.find?_some hrow
  rw [Bool.and_eq_true, decide_eq_true_eq] at hkeys
  rw [hrow, eq_of_key_eq coherent.items_key (List.mem_of_find?_eq_some hrow) stored hkeys.1]

/-- What is left of an order fits the column of its total. -/
theorem ListedIn.openTotal_fits (listed : ListedIn id items t.orderItems) (composed : t.Composed)
    {order : OrderRow} (stored : order ∈ t.orders) (own : order.id = id) :
    fitsNumeric 12 (Order.openTotal items) := by
  have hcomposed := composed.orders order stored
  have hperm : (items.map row).Perm (ItemRow.ofOrder id t.orderItems) := listed.perm
  rw [own] at hcomposed
  have hnatural : ∀ item ∈ items, 0 ≤ item.subtotal := fun item hitem =>
    (hcomposed.priced item.row (hperm.mem_iff.mp (List.mem_map_of_mem hitem))).subtotal_natural
  have hworth : order.total - order.discount = (items.map (·.subtotal)).sum := by
    rw [hcomposed.worth_eq, ← (hperm.map _).sum_eq, List.map_map]
    rfl
  refine fitsNumeric_of_le (Order.openTotal_natural hnatural) ?_ (composed.worth_fits order stored)
  rw [hworth]
  exact Order.openTotal_le hnatural

end OrderItem

namespace Order

/-- An open item can be cancelled, since its product is there. -/
theorem succeeds_cancelOne {item : OrderItem} (calm : p.fault = none) (coherent : p.tables.Coherent)
    (supplied : p.tables.Supplied) (text : fitsText reason)
    (stored : item.row ∈ p.tables.orderItems) (now : Instant) :
    Succeeds (cancelOne reason now item) context p := by
  obtain ⟨product, hproduct, hstock⟩ := supplied.exists_product stored
  have hquantity : 0 < item.quantity := coherent.items_positive item.row stored
  have hnatural : 0 ≤ product.stock + item.quantity := by omega
  have hfound : p.tables.orderItems.find? (fun row => row.id = item.id) = some item.row :=
    (find?_key_iff coherent.items_key).mpr ⟨stored, rfl⟩
  exact ⟨⟨⟩, _, (returns_cancelOne calm).mpr
    ⟨item.row, product, hfound, text, hproduct, hnatural, rfl⟩⟩

/-- Open items can be cancelled one after the other. -/
theorem succeeds_forM {items : List OrderItem} (calm : p.fault = none)
    (coherent : p.tables.Coherent) (supplied : p.tables.Supplied) (text : fitsText reason)
    (hopen : OrderItem.OpenIn p.tables items) :
    Succeeds (forM items (cancelOne reason context.clock.wall)) context p := by
  induction items generalizing p with
  | nil => exact succeeds_pure _
  | cons item rest ih =>
    obtain ⟨⟨⟩, middle, hone⟩ : Succeeds (cancelOne reason context.clock.wall item) context p :=
      succeeds_cancelOne calm coherent supplied text (hopen.stored item List.mem_cons_self) _
    have hwithdrawn := withdrawn_of_returns_cancelOne calm hone
    rw [List.forM_cons]
    exact hone.bind (ih (hone.fault_eq_none calm) (coherent.withdrawn hwithdrawn)
      (supplied.withdrawn hwithdrawn) (hopen.tail hwithdrawn))

theorem succeeds_cancelOpenItems (calm : p.fault = none) (coherent : p.tables.Coherent)
    (supplied : p.tables.Supplied) (text : fitsText reason) (id : OrderId) :
    Succeeds (cancelOpenItems id reason context.clock.wall) context p := by
  obtain ⟨items, hlisted⟩ := OrderItem.exists_listedIn coherent id
  refine Returns.bind ((OrderItem.returns_listFor calm).mpr ⟨hlisted, rfl⟩) ?_
  rw [List.forM_eq_forM]
  exact succeeds_forM calm coherent supplied text (hlisted.openIn coherent.items_key)

end Order

namespace Purchase.Writable

theorem of_storedIn (calm : p.fault = none) (lawful : p.tables.Lawful)
    (h : purchase.StoredIn p.tables) : purchase.Writable p :=
  ⟨calm, h.order_found, h.payment_found, lawful.settled.sound⟩

/-- Items that are withdrawn leave the order and its payment as they are. -/
theorem withdrawn {clock : Clock} {items : List OrderItem} (h : purchase.Writable p)
    (calm : p'.fault = none)
    (hwithdrawn : OrderItem.Withdrawn clock reason items p.tables p'.tables) :
    purchase.Writable p' := by
  refine ⟨calm, ?_, ?_, ?_⟩
  · rw [hwithdrawn.orders_eq]
    exact h.order_found
  · rw [hwithdrawn.payments_eq]
    exact h.payment_found
  · rw [hwithdrawn.payments_eq]
    exact h.sound

theorem succeeds_cancelPayment (h : purchase.Writable p) :
    Succeeds (Order.cancelPayment purchase.payment) context p := by
  have hfound := h.payment_found
  generalize purchase.payment = payment at hfound
  cases payment with
  | none => exact succeeds_pure _
  | some payment =>
    by_cases hopen : payment.status.isUnsettled
    · rw [Order.cancelPayment, if_pos hopen]
      exact (Payment.succeeds_save h.calm h.sound hfound .cancelled).discard
    · rw [Order.cancelPayment, if_neg hopen]
      exact succeeds_pure _

theorem succeeds_settleOnCancel (h : purchase.Writable p) {order : Order} :
    Succeeds (Order.settleOnCancel order purchase.payment) context p := by
  unfold Order.settleOnCancel
  rw [Order.paymentStatusAfter_cancelled]
  by_cases hdue : order.refundDue purchase.payment
  · have hfound := h.payment_found
    obtain ⟨-, paid, hpayment, hpaid⟩ := Order.exists_paid_of_refundDue hdue
    rw [hpayment] at hfound hdue ⊢
    obtain ⟨saved, middle, hsave⟩ :
        Succeeds (Payment.save { paid with status := .refunded }) context p :=
      Payment.succeeds_save h.calm h.sound hfound .refunded
    obtain ⟨⟨⟩, last, hrefund⟩ := (Payment.returns_refund.mpr ⟨hpaid, hsave⟩).succeeds.discard
    simp only [hdue, if_true]
    exact hrefund.bind (succeeds_pure _)
  · obtain ⟨⟨⟩, last, hcancel⟩ : Succeeds (Order.cancelPayment purchase.payment) context p :=
      h.succeeds_cancelPayment
    simp only [hdue, Bool.false_eq_true, if_false]
    exact hcancel.bind (succeeds_pure _)

/-- The order is still found once its payment is written back. -/
theorem order_found_written (h : purchase.Writable p) {payments : List PaymentRow}
    (changed : p'.tables = { p.tables with payments }) :
    p'.tables.orders.find? (fun row => row.id = purchase.order.id) = some purchase.order.row := by
  rw [changed]
  exact h.order_found

/-- The order can be written back once its payment is settled. -/
theorem succeeds_save_settled (h : purchase.Writable p) {order settled next : Order}
    (hsettle : Returns (Order.settleOnCancel order purchase.payment) context p settled p')
    (own : order.fixed = purchase.order.fixed) (fits : fitsNumeric 12 order.finalTotal)
    (fixed : next.fixed = settled.fixed) (total : next.finalTotal = settled.finalTotal) :
    Succeeds (Order.save next) context p' := by
  obtain ⟨rfl, hchanged⟩ := Order.returns_settleOnCancel h.calm hsettle
  refine Order.succeeds_save (hsettle.fault_eq_none h.calm) (h.order_found_written hchanged) ?_ ?_
  · rw [fixed, Order.fixed_settledOnCancel]
    exact own
  · rw [total, Order.finalTotal_settledOnCancel]
    exact fits

end Purchase.Writable

namespace Purchase.StoredIn

/-- A session on the order goes on once the order is found. -/
theorem succeeds_onOrder {α : Type} {next : Order → Session α} (h : purchase.StoredIn p.tables)
    (calm : p.fault = none) (hnext : Succeeds (next purchase.order) context p) :
    Succeeds (do next (← Session.found .notFound (← Order.find purchase.order.id))) context p := by
  have hfind : Returns (Order.find purchase.order.id) context p (some purchase.order) p :=
    (Order.returns_find calm).mpr ⟨h.order_found, rfl⟩
  have hfound :
      Returns (Session.found .notFound (some purchase.order)) context p purchase.order p :=
    returns_found.mpr ⟨rfl, rfl⟩
  exact hfind.bind (hfound.bind hnext)

theorem returns_findPayment (h : purchase.StoredIn p.tables) (calm : p.fault = none) :
    Returns (Payment.findForOrder purchase.order.id) context p purchase.payment p :=
  (Payment.returns_findForOrder calm).mpr ⟨h.payment_found, rfl⟩

/-- The open items of an order can be cancelled, and the order and its payment written back then. -/
theorem exists_emptied (h : purchase.StoredIn p.tables) (calm : p.fault = none)
    (ready : p.tables.Ready) (text : fitsText reason) :
    ∃ middle,
      Returns (Order.cancelOpenItems purchase.order.id reason context.clock.wall) context p ⟨⟩
      middle ∧ purchase.Writable middle := by
  have hlawful := ready.lawful
  obtain ⟨⟨⟩, middle, hloop⟩ : Succeeds
      (Order.cancelOpenItems purchase.order.id reason context.clock.wall) context p :=
    Order.succeeds_cancelOpenItems calm hlawful.coherent ready.supplied text _
  obtain ⟨items, -, hwithdrawn⟩ := Order.withdrawn_of_returns_cancelOpenItems calm hloop
  exact ⟨middle, hloop, (Writable.of_storedIn calm hlawful h).withdrawn (hloop.fault_eq_none calm)
    hwithdrawn⟩

/-- A pending order can be cancelled by its user. -/
theorem succeeds_cancelPending (h : purchase.StoredIn p.tables) (calm : p.fault = none)
    (ready : p.tables.Ready) (pending : purchase.order.status = .pending) :
    Succeeds (Order.cancelPending purchase.order.userId purchase.order.id) context p := by
  have htext : fitsText "Cancelled by customer" := by decide
  unfold Order.cancelPending
  apply Succeeds.transaction
  refine h.succeeds_onOrder calm ?_
  refine Returns.bind (a := ⟨⟩) (Order.returns_requireOwner.mpr ⟨rfl, rfl⟩) ?_
  refine Returns.bind (a := ⟨⟩) (returns_require.mpr ⟨decide_eq_true pending, rfl⟩) ?_
  refine (returns_wallTime.mpr ⟨rfl, rfl⟩).bind ?_
  obtain ⟨middle, hloop, hwritable⟩ := h.exists_emptied calm ready htext
  refine hloop.bind ?_
  refine ((Payment.returns_findForOrder hwritable.calm).mpr ⟨hwritable.payment_found, rfl⟩).bind ?_
  rw [Order.paymentStatusAfter_cancelled]
  by_cases hdue : purchase.order.refundDue purchase.payment
  · obtain ⟨saved, last, hsave⟩ : Succeeds (Order.save purchase.order.cancelled) context middle :=
      Order.succeeds_save hwritable.calm hwritable.order_found rfl rfl
    simp only [hdue, if_true]
    exact hsave.bind (succeeds_pure _)
  · obtain ⟨⟨⟩, settled, hcancel⟩ :
        Succeeds (Order.cancelPayment purchase.payment) context middle :=
      hwritable.succeeds_cancelPayment
    have hfound := hwritable.order_found_written
      (Order.returns_cancelPayment hwritable.calm hcancel)
    obtain ⟨saved, last, hsave⟩ :
        Succeeds (Order.save purchase.order.cancelled.withPaymentCancelled) context settled :=
      Order.succeeds_save (hcancel.fault_eq_none hwritable.calm) hfound rfl rfl
    simp only [hdue, Bool.false_eq_true, if_false, reduceCtorEq, Option.some.injEq]
    exact hcancel.bind (hsave.bind (succeeds_pure _))

/-- An order that may be cancelled can be cancelled by an administrator. -/
theorem succeeds_move (h : purchase.StoredIn p.tables) (calm : p.fault = none)
    (ready : p.tables.Ready) (cancellable : purchase.order.status.canBecome .cancelled) :
    Succeeds (Order.move purchase.order.id .cancelled) context p := by
  have htext : fitsText "Cancelled by admin" := by decide
  unfold Order.move
  apply Succeeds.transaction
  refine h.succeeds_onOrder calm ?_
  refine Returns.bind (a := ⟨⟩) (returns_require.mpr ⟨cancellable, rfl⟩) ?_
  refine (returns_wallTime.mpr ⟨rfl, rfl⟩).bind ?_
  obtain ⟨middle, hloop, hwritable⟩ := h.exists_emptied calm ready htext
  have hempty : Returns (Order.emptyOnCancel .cancelled context.clock.wall purchase.order) context p
      { purchase.order with finalTotal := 0 } middle :=
    returns_bind.mpr ⟨⟨⟩, middle, hloop, returns_pure.mpr ⟨rfl, rfl⟩⟩
  refine hempty.bind ?_
  refine ((Payment.returns_findForOrder hwritable.calm).mpr ⟨hwritable.payment_found, rfl⟩).bind ?_
  obtain ⟨settled, last, hsettle⟩ : Succeeds
      (Order.settleOnCancel { purchase.order with finalTotal := 0 } purchase.payment) context
        middle :=
    hwritable.succeeds_settleOnCancel
  obtain ⟨saved, after, hsave⟩ :
      Succeeds (Order.save { settled with status := .cancelled }) context last :=
    hwritable.succeeds_save_settled hsettle rfl rfl rfl rfl
  exact hsettle.bind (hsave.bind (succeeds_pure _))

/-- An open item of an order that may be cancelled can be cancelled by its user. -/
theorem succeeds_withdrawItem (h : purchase.StoredIn p.tables) (calm : p.fault = none)
    (ready : p.tables.Ready) (cancellable : purchase.order.status.canBecome .cancelled)
    {item : OrderItem} (hitem : item ∈ purchase.items) (hopen : item.status.isCancellable)
    (text : fitsText reason) :
    Succeeds (Order.withdrawItem purchase.order.userId purchase.order.id item.id reason) context
      p := by
  obtain ⟨hstored, howner⟩ := h.mem_items.mp hitem
  obtain ⟨hshipped, hdelivered, -⟩ := OrderStatus.canBecome_cancelled.mp cancellable
  have hlawful := ready.lawful
  have hfound := OrderItem.find?_of_mem hlawful.coherent hstored
  rw [howner] at hfound
  unfold Order.withdrawItem
  apply Succeeds.transaction
  refine h.succeeds_onOrder calm ?_
  refine Returns.bind (a := ⟨⟩) (Order.returns_requireOwner.mpr ⟨rfl, rfl⟩) ?_
  refine Returns.bind (a := ⟨⟩) (returns_require.mpr ⟨by simp [hshipped, hdelivered], rfl⟩) ?_
  refine Returns.bind (a := some item) ((OrderItem.returns_find calm).mpr ⟨hfound, rfl⟩) ?_
  refine (returns_found.mpr ⟨rfl, rfl⟩).bind ?_
  refine Returns.bind (a := ⟨⟩) (returns_require.mpr ⟨hopen, rfl⟩) ?_
  refine (returns_wallTime.mpr ⟨rfl, rfl⟩).bind ?_
  obtain ⟨⟨⟩, middle, hone⟩ :
      Succeeds (Order.cancelOne reason context.clock.wall item) context p :=
    Order.succeeds_cancelOne calm hlawful.coherent ready.supplied text hstored _
  refine hone.bind ?_
  have hwithdrawn := Order.withdrawn_of_returns_cancelOne calm hone
  have hwritable : purchase.Writable middle :=
    (Writable.of_storedIn calm hlawful h).withdrawn (hone.fault_eq_none calm) hwithdrawn
  obtain ⟨items, hlisted⟩ :=
    OrderItem.exists_listedIn (hlawful.coherent.withdrawn hwithdrawn) purchase.order.id
  refine ((OrderItem.returns_listFor hwritable.calm).mpr ⟨hlisted, rfl⟩).bind ?_
  have hfits : fitsNumeric 12 (Order.openTotal items) :=
    hlisted.openTotal_fits ((Tables.SameOrders.withdrawn hwithdrawn).composed ready.composed)
      (mem_of_find?_key hwritable.order_found).1 rfl
  split
  · refine ((Payment.returns_findForOrder hwritable.calm).mpr
      ⟨hwritable.payment_found, rfl⟩).bind ?_
    obtain ⟨settled, last, hsettle⟩ : Succeeds (Order.settleOnCancel
        { purchase.order with status := .cancelled, finalTotal := Order.openTotal items }
        purchase.payment) context middle := hwritable.succeeds_settleOnCancel
    exact hsettle.bind (hwritable.succeeds_save_settled hsettle rfl hfits rfl rfl)
  · exact Order.succeeds_save hwritable.calm hwritable.order_found rfl hfits

end Purchase.StoredIn

/-- What an operation does that is no checkout leaves the tables ready. -/
theorem Tables.Ready.effect {fault : Option Fault} {store : Store} {operation : Operation}
    {events : List Event} {t' : Tables} (ready : store.tables.Ready)
    (h : operation.Effect context fault store events t') (hop : operation.checkout? = none) :
    t'.Ready :=
  ⟨ready.lawful.effect h, (Tables.SameOrders.effect h hop).composed ready.composed,
    ready.supplied.effect h⟩

theorem Step.ready (currency : String) {step : Step} {store : Store} {operation : Operation}
    (ready : store.tables.Ready) (asked : step.operation? = some operation)
    (hop : operation.checkout? = none) : (step.run currency store).store.tables.Ready := by
  refine step.keeps currency (isServed_of_operation asked) ready
    fun other events t' hother heffect => ?_
  obtain rfl : other = operation := Option.some.inj (hother.symm.trans asked)
  exact ready.effect heffect hop

/-- Wherever a run that began without orders has come to, the tables are ready. -/
theorem ready_storeAfter (currency : String) {steps : List Step} {start : Store}
    (served : ∀ step ∈ steps, step.IsServed) (constrained : start.tables.Constrained)
    (orders : start.tables.orders = []) : (storeAfter currency steps start).tables.Ready := by
  have items := constrained.orderItems_eq_nil orders
  have payments := constrained.payments_eq_nil orders
  have hsupplied : (storeAfter currency steps start).tables.Supplied := by
    refine storeAfter_induction (I := fun store => store.tables.Supplied) ?_ ?_
    · refine ⟨constrained.products_key, constrained.stock_natural, ?_⟩
      simp [items]
    · exact fun step hstep store hstore => Step.supplied (served step hstep) hstore
  exact ⟨lawful_storeAfter served (.of_empty orders items payments),
    (composed_storeAfter currency served orders items constrained.price_natural).2, hsupplied⟩

end Storefront
