import Storefront.Proofs.Order.Totals
import Storefront.Proofs.Payment.Refunds

/-!
Purchases: an order with its items and its payment. What becomes of a purchase in one step is one of
a few moves, which need no store to be stated. An amendment of an order makes a move of its purchase
and leaves the other purchases as they are.
-/

namespace Storefront

/-- An order with its items, in the order in which they were stored, and its payment. -/
structure Purchase where
  order : Order
  items : List OrderItem
  payment : Option Payment

/-- The tables hold the order, with just these items and this payment. -/
structure Purchase.StoredIn (purchase : Purchase) (t : Tables) : Prop where
  order_found : t.orders.find? (fun row => row.id = purchase.order.id) = some purchase.order.row
  items_eq : ItemRow.ofOrder purchase.order.id t.orderItems = purchase.items.map OrderItem.row
  payments_eq : t.payments.filter (fun row => row.orderId = purchase.order.id) =
    purchase.payment.toList.map Payment.row

/-- What the service keeps true of the tables that it writes. -/
structure Tables.Lawful (t : Tables) : Prop where
  coherent : t.Coherent
  totalled : t.Totalled
  settled : t.Settled

/-- An item once it is cancelled. -/
def OrderItem.cancel (clock : Clock) (reason : String) (item : OrderItem) : OrderItem :=
  { item with
    status := .cancelled
    cancellationReason := some reason
    cancelledAt := some clock.wall
    updatedAt := clock.store }

/-- The items once some of them are cancelled. -/
def OrderItem.cancelAll (clock : Clock) (reason : String) (cancelled items : List OrderItem) :
    List OrderItem :=
  updateWhere (fun item => item.id ∈ cancelled.map (·.id)) (OrderItem.cancel clock reason) items

/-- An item stays as it is, or it was pending and is cancelled. -/
inductive OrderItem.Move (clock : Clock) (item : OrderItem) : OrderItem → Prop
  | kept : Move clock item item
  | cancelled (reason : String) (pending : item.status = .pending) :
      Move clock item (item.cancel clock reason)

/-- An order of which nothing is left. -/
def Order.cancelled (order : Order) : Order :=
  { order with status := .cancelled, finalTotal := 0 }

/-- An order once it is delivered. -/
def Order.delivered (wall : Instant) (order : Order) : Order :=
  { order with
    status := .delivered
    paymentStatus := .paid
    paidAt := some (order.paidAt.getD wall) }

/-- The payment of an order that is cancelled without a refund. -/
def Payment.callOff (now : Instant) (payment : Payment) : Payment :=
  if payment.status.isUnsettled then stamp { payment with status := .cancelled } now else payment

/-- The payment of an order that is delivered. -/
def Payment.collect (now paidAt : Instant) (payment : Payment) : Payment :=
  if payment.status = .pending then
    stamp { payment with status := .paid, paidAt := some paidAt } now
  else payment

/-- The payment once it is refunded. -/
def Payment.giveBackAt (now : Instant) (payment : Payment) : Payment :=
  stamp { payment with status := .refunded } now

/-- The purchase with its order written back, and its payment if that is written back too. -/
def Purchase.amend (now : Instant) (change : Order × Option Payment) (purchase : Purchase) :
    Purchase :=
  { purchase with
    order := change.1.stamp now
    payment := (change.2.map (·.stamp now)).or purchase.payment }

/-- What may become of a purchase in one step. -/
inductive Purchase.Move (clock : Clock) (purchase : Purchase) : Purchase → Prop
  | kept : Move clock purchase purchase
  /-- An item is cancelled, and not all are. -/
  | lessened {items : List OrderItem}
      (cancellable : purchase.order.status.canBecome .cancelled)
      (withdrawn : List.Forall₂ (OrderItem.Move clock) purchase.items items)
      (left : ∃ item ∈ items, item.status ≠ .cancelled) :
      Move clock purchase { purchase with
        order := Order.stamp { purchase.order with finalTotal := Order.openTotal items } clock.store
        items }
  /-- The order is cancelled, and its payment, which is paid, is refunded. -/
  | cancelledPaid {items : List OrderItem} {payment : Payment}
      (cancellable : purchase.order.status.canBecome .cancelled)
      (withdrawn : List.Forall₂ (OrderItem.Move clock) purchase.items items)
      (emptied : ∀ item ∈ items, item.status = .cancelled)
      (found : purchase.payment = some payment) (paid : payment.status = .paid) :
      Move clock purchase {
        order := Order.stamp { purchase.order.cancelled with paymentStatus := .refunded }
          clock.store
        items
        payment := some (payment.giveBackAt clock.store) }
  /-- The order is cancelled, and its payment, of which no refund is due, is called off. -/
  | cancelledUnpaid {items : List OrderItem}
      (cancellable : purchase.order.status.canBecome .cancelled)
      (withdrawn : List.Forall₂ (OrderItem.Move clock) purchase.items items)
      (emptied : ∀ item ∈ items, item.status = .cancelled)
      (undue : ¬purchase.order.refundDue purchase.payment) :
      Move clock purchase {
        order := purchase.order.cancelled.withPaymentCancelled.stamp clock.store
        items
        payment := purchase.payment.map (Payment.callOff clock.store) }
  /-- The order is cancelled, and the refund that is due fails. -/
  | refundMissed {items : List OrderItem} (pending : purchase.order.status = .pending)
      (due : purchase.order.refundDue purchase.payment)
      (withdrawn : List.Forall₂ (OrderItem.Move clock) purchase.items items)
      (emptied : ∀ item ∈ items, item.status = .cancelled) :
      Move clock purchase { purchase with
        order := purchase.order.cancelled.stamp clock.store
        items }
  /-- The order is moved to a state from which it can be moved on. -/
  | advanced {next : OrderStatus} (allowed : purchase.order.status.canBecome next)
      (undelivered : next ≠ .delivered) (uncancelled : next ≠ .cancelled) :
      Move clock purchase { purchase with
        order := Order.stamp { purchase.order with status := next } clock.store }
  | delivered (allowed : purchase.order.status.canBecome .delivered) :
      Move clock purchase { purchase with
        order := (purchase.order.delivered clock.wall).stamp clock.store
        payment := purchase.payment.map
          (Payment.collect clock.store (purchase.order.paidAt.getD clock.wall)) }
  | intentCreated {currency : String} {id : Uuid} {method : PaymentMethod}
      (pending : purchase.order.status = .pending) (unpaid : purchase.payment = none) :
      Move clock purchase { purchase with
        payment := some (Payment.opened clock currency id purchase.order.id
          purchase.order.finalTotal method (gatewayReference method id)) }
  | confirmed {payment : Payment} (found : purchase.payment = some payment)
      (uncancelled : purchase.order.status ≠ .cancelled) (unsettled : payment.status.isUnsettled)
      (online : payment.method ≠ .cod) :
      Move clock purchase { purchase with
        order := (Payment.settledBy purchase.order payment clock.wall).stamp clock.store
        payment := some ((payment.confirmed .paid clock.wall).stamp clock.store) }
  | failed {payment : Payment} (found : purchase.payment = some payment)
      (uncancelled : purchase.order.status ≠ .cancelled) (unsettled : payment.status.isUnsettled) :
      Move clock purchase { purchase with
        payment := some ((payment.confirmed .failed clock.wall).stamp clock.store) }
  | refunded {payment : Payment} (found : purchase.payment = some payment)
      (paid : payment.status = .paid) :
      Move clock purchase { purchase with
        order := Order.stamp { purchase.order with paymentStatus := .refunded } clock.store
        payment := some (payment.giveBackAt clock.store) }

/-- A purchase as a checkout leaves it. -/
structure Purchase.IsPlaced (purchase : Purchase) : Prop where
  pending : purchase.order.status = .pending
  due : purchase.order.paymentStatus = .pending
  unpaid : purchase.order.paidAt = none
  no_payment : purchase.payment = none
  items_open : ∀ item ∈ purchase.items, item.status = .pending
  items_unmarked : ∀ item ∈ purchase.items,
    item.cancellationReason = none ∧ item.cancelledAt = none

/-- Rows that each stand for something stand for a list. -/
theorem exists_map_eq {α β : Type} {f : α → β} {rows : List β}
    (h : ∀ row ∈ rows, ∃ x, row = f x) : ∃ xs : List α, rows = xs.map f := by
  induction rows with
  | nil => exact ⟨[], rfl⟩
  | cons row rest ih =>
    obtain ⟨x, rfl⟩ := h row List.mem_cons_self
    obtain ⟨xs, rfl⟩ := ih fun other hother => h other (List.mem_cons_of_mem _ hother)
    exact ⟨x :: xs, rfl⟩

/-- What is written back of something that passes a test, or else the thing as it is. -/
theorem map_filter_or {α : Type} (p : α → Bool) (f g : α → α) (x : Option α) :
    (((x.filter p).map f).map g).or x = x.map fun a => if p a then g (f a) else a := by
  cases x with
  | none => rfl
  | some a =>
    by_cases h : p a
    · simp [Option.filter, h]
    · simp [Option.filter, h]

namespace Payment

/-- What is written back of a payment that is called off, or else the payment as it is. -/
theorem calledOff_or (now : Instant) (payment : Option Payment) :
    ((calledOff payment).map (·.stamp now)).or payment = payment.map (callOff now) :=
  map_filter_or _ _ _ payment

/-- What is written back of a payment on delivery, or else the payment as it is. -/
theorem paidOnDelivery_or (now paidAt : Instant) (payment : Option Payment) :
    ((Order.paidOnDelivery paidAt payment).map (·.stamp now)).or payment =
      payment.map (collect now paidAt) := by
  refine (map_filter_or _ _ _ payment).trans (congrArg (payment.map ·) (funext fun payment => ?_))
  simp only [decide_eq_true_eq]
  rfl

end Payment

namespace OrderItem

variable {clock : Clock} {reason : String}

theorem map_row_cancelAll (cancelled items : List OrderItem) :
    (cancelAll clock reason cancelled items).map row =
      ItemRow.cancelAll clock reason cancelled (items.map row) := by
  rw [cancelAll, ItemRow.cancelAll, updateWhere, updateWhere, List.map_map, List.map_map]
  refine List.map_congr_left fun item _ => ?_
  have hid : item.row.id = item.id := rfl
  simp only [Function.comp_apply, hid]
  split <;> rfl

@[simp] theorem cancelAll_nil (items : List OrderItem) :
    cancelAll clock reason [] items = items :=
  updateWhere_eq_self fun _ _ => by simp

end OrderItem

namespace Tables.Lawful

variable {t t' : Tables}

theorem of_empty (orders : t.orders = []) (items : t.orderItems = []) (payments : t.payments = []) :
    t.Lawful := by
  refine ⟨.of_empty orders items, ?_, .of_empty payments⟩
  unfold Totalled
  simp [orders]

/-- What an operation does keeps the tables lawful. -/
theorem effect {context : Context} {fault : Option Fault} {store : Store} {operation : Operation}
    {events : List Event} (lawful : store.tables.Lawful)
    (h : operation.Effect context fault store events t') : t'.Lawful :=
  ⟨lawful.coherent.effect h, lawful.totalled.effect lawful.coherent h,
    lawful.settled.effect lawful.coherent h⟩

end Tables.Lawful

namespace Purchase.StoredIn

variable {clock : Clock} {t t' : Tables} {purchase other : Purchase} {order : Order}
  {items : List OrderItem} {change : Order × Option Payment}

theorem congr (h : purchase.StoredIn t) (horders : t'.orders = t.orders)
    (hitems : t'.orderItems = t.orderItems) (hpayments : t'.payments = t.payments) :
    purchase.StoredIn t' := by
  constructor
  · rw [horders]
    exact h.order_found
  · rw [hitems]
    exact h.items_eq
  · rw [hpayments]
    exact h.payments_eq

theorem order_mem (h : purchase.StoredIn t) : purchase.order.row ∈ t.orders :=
  (mem_of_find?_key h.order_found).1

theorem orders_ne_nil (h : purchase.StoredIn t) : t.orders ≠ [] :=
  List.ne_nil_of_mem h.order_mem

theorem order_eq (h : purchase.StoredIn t)
    (found : t.orders.find? (fun row => row.id = purchase.order.id) = some order.row) :
    order = purchase.order :=
  Order.row_injective (Option.some.inj (found.symm.trans h.order_found))

theorem mem_items (h : purchase.StoredIn t) {item : OrderItem} :
    item ∈ purchase.items ↔ item.row ∈ t.orderItems ∧ item.orderId = purchase.order.id := by
  rw [← List.mem_map_of_injective OrderItem.row_injective, ← h.items_eq, ItemRow.ofOrder,
    List.mem_filter, decide_eq_true_eq]
  rfl

theorem payment_found (h : purchase.StoredIn t) :
    Payment.FoundIn purchase.order.id purchase.payment t.payments := by
  rw [Payment.FoundIn, ← List.head?_filter, h.payments_eq]
  cases purchase.payment <;> rfl

theorem payment_eq (h : purchase.StoredIn t) {payment : Option Payment}
    (found : Payment.FoundIn purchase.order.id payment t.payments) : payment = purchase.payment :=
  Option.map_injective Payment.row_injective (found.symm.trans h.payment_found)

theorem payment_eq_of_found (h : purchase.StoredIn t) {id : OrderId} {payment : Option Payment}
    (order_found : t.orders.find? (fun row => row.id = id) = some purchase.order.row)
    (found : Payment.FoundIn id payment t.payments) : payment = purchase.payment := by
  rw [← Order.id_of_found order_found] at found
  exact h.payment_eq found

/-- The payments in the tables that belong to the order are its payment. -/
theorem mem_payments (h : purchase.StoredIn t) {payment : Payment} :
    purchase.payment = some payment ↔
      payment.row ∈ t.payments ∧ payment.orderId = purchase.order.id := by
  rw [← Option.mem_toList, ← List.mem_map_of_injective Payment.row_injective, ← h.payments_eq,
    List.mem_filter, decide_eq_true_eq]
  rfl

/-- There is one purchase with an order identifier. -/
theorem eq_of_id_eq (h : purchase.StoredIn t) (h' : other.StoredIn t)
    (hid : other.order.id = purchase.order.id) : other = purchase := by
  obtain ⟨order, items, payment⟩ := purchase
  obtain ⟨order', items', payment'⟩ := other
  dsimp only at hid
  have horder := h'.order_found
  have hitems := h'.items_eq
  have hpayment := h'.payment_found
  dsimp only at horder hitems hpayment
  rw [hid] at horder hitems hpayment
  obtain rfl := h.order_eq horder
  obtain rfl := h.payment_eq hpayment
  obtain rfl := List.map_injective_iff.mpr OrderItem.row_injective (hitems.symm.trans h.items_eq)
  rfl

/-- Every order in lawful tables is that of a purchase. -/
theorem exists_of_mem (lawful : t.Lawful) {row : OrderRow} (hrow : row ∈ t.orders) :
    ∃ purchase : Purchase, purchase.order.row = row ∧ purchase.StoredIn t := by
  obtain ⟨order, rfl⟩ := lawful.coherent.orders_read row hrow
  obtain ⟨items, hitems⟩ := exists_map_eq (f := OrderItem.row)
    fun row (hrow : row ∈ ItemRow.ofOrder order.id t.orderItems) =>
      lawful.coherent.items_read row (List.mem_filter.mp hrow).1
  obtain ⟨payment, hpayment⟩ : ∃ payment, Payment.FoundIn order.id payment t.payments := by
    cases hfound : t.payments.find? fun row => decide (row.orderId = order.id) with
    | none => exact ⟨none, hfound⟩
    | some row =>
      obtain ⟨payment, rfl⟩ := lawful.settled.sound.read row (List.mem_of_find?_eq_some hfound)
      exact ⟨some payment, hfound⟩
  refine ⟨⟨order, items, payment⟩, rfl, ?_, hitems, ?_⟩
  · exact (find?_key_iff lawful.coherent.orders_key).mpr ⟨hrow, rfl⟩
  · have hfound := hpayment
    rw [Payment.FoundIn] at hfound
    rw [filter_key_eq_toList lawful.settled.sound.one_per_order, hfound]
    cases payment <;> rfl

/-- Every payment in lawful tables is that of a purchase. -/
theorem exists_of_mem_payments (lawful : t.Lawful) {row : PaymentRow} (hrow : row ∈ t.payments) :
    ∃ (purchase : Purchase) (payment : Payment),
      row = payment.row ∧ purchase.payment = some payment ∧ purchase.StoredIn t := by
  obtain ⟨payment, rfl⟩ := lawful.settled.sound.read row hrow
  obtain ⟨owner, howner, hid⟩ := lawful.settled.payment_order payment.row hrow
  obtain ⟨purchase, rfl, hpurchase⟩ := exists_of_mem lawful howner
  exact ⟨purchase, payment, rfl, hpurchase.mem_payments.mpr ⟨hrow, hid.symm⟩, hpurchase⟩

/-- Every item in lawful tables is one of a purchase. -/
theorem exists_of_mem_items (lawful : t.Lawful) {row : ItemRow} (hrow : row ∈ t.orderItems) :
    ∃ (purchase : Purchase) (item : OrderItem),
      row = item.row ∧ item ∈ purchase.items ∧ purchase.StoredIn t := by
  obtain ⟨item, rfl⟩ := lawful.coherent.items_read row hrow
  obtain ⟨owner, howner, hid⟩ := lawful.coherent.item_order item.row hrow
  obtain ⟨purchase, rfl, hpurchase⟩ := exists_of_mem lawful howner
  exact ⟨purchase, item, rfl, hpurchase.mem_items.mpr ⟨hrow, hid.symm⟩, hpurchase⟩

/-- The payments of the order once its payment is written back. -/
theorem payments_written {written : Option Payment} (h : purchase.StoredIn t)
    (follows : Payment.FollowsIn purchase.order.id t.payments written) (now : Instant) :
    (Payment.writeTo now written t.payments).filter (fun row => row.orderId = purchase.order.id) =
      ((written.map (·.stamp now)).or purchase.payment).toList.map Payment.row := by
  cases written with
  | none => exact h.payments_eq
  | some next =>
    obtain ⟨payment, hstored, howner, hfollows⟩ := follows next rfl
    have hpayment : purchase.payment = some payment := h.mem_payments.mpr ⟨hstored, howner⟩
    have hid : payment.row.id = next.id := (Payment.id_of_fixed hfollows.fixed).symm
    rw [Payment.writeTo, filter_updateWhere, h.payments_eq, hpayment]
    · change updateWhere _ _ [payment.row] = [(next.stamp now).row]
      rw [updateWhere_cons, if_pos (decide_eq_true hid), Payment.overwrite_row hfollows.fixed,
        updateWhere_nil]
    · exact fun _ => rfl

/-- An amendment of the order amends the purchase. -/
theorem amended (h : purchase.StoredIn t)
    (amended : Order.Amended clock t order items change t')
    (follows : Payment.FollowsIn order.id t.payments change.2)
    (own : purchase.order.id = order.id) :
    ∃ reason, (amend clock.store change { purchase with
      items := OrderItem.cancelAll clock reason items purchase.items }).StoredIn t' := by
  obtain ⟨reason, hitems⟩ := amended.exists_orderItems_eq
  have hid : (change.1.stamp clock.store).id = purchase.order.id :=
    (Order.id_of_fixed amended.fixed).trans own.symm
  refine ⟨reason, ?_, ?_, ?_⟩
  · have hfound := amended.found
    rw [← own, ← hid] at hfound
    exact hfound
  · change ItemRow.ofOrder (change.1.stamp clock.store).id t'.orderItems = _
    have hstored := h.items_eq
    rw [ItemRow.ofOrder] at hstored
    rw [hid, hitems, ItemRow.ofOrder, ItemRow.cancelAll, filter_updateWhere, hstored]
    · exact (OrderItem.map_row_cancelAll items purchase.items).symm
    · exact fun _ => rfl
  · change t'.payments.filter (fun row => row.orderId = (change.1.stamp clock.store).id) = _
    rw [hid, amended.payments_eq]
    rw [← own] at follows
    exact h.payments_written follows clock.store

/-- An amendment that touches no item. -/
theorem amended_quietly (h : purchase.StoredIn t)
    (amended : Order.Amended clock t order [] change t')
    (follows : Payment.FollowsIn order.id t.payments change.2)
    (own : purchase.order.id = order.id) : (purchase.amend clock.store change).StoredIn t' := by
  obtain ⟨reason, hstored⟩ := h.amended amended follows own
  rw [OrderItem.cancelAll_nil] at hstored
  exact hstored

/-- An amendment of another order leaves the purchase as it is. -/
theorem of_amended_ne (h : purchase.StoredIn t) (lawful : t.Lawful)
    (amended : Order.Amended clock t order items change t')
    (follows : Payment.FollowsIn order.id t.payments change.2)
    (hne : purchase.order.id ≠ order.id) : purchase.StoredIn t' := by
  constructor
  · have hother : ¬purchase.order.row.id = change.1.id := by
      rw [Order.id_of_fixed amended.fixed]
      exact hne
    rw [amended.orders_eq, Order.writeTo, find?_updateWhere, h.order_found, Option.map_some,
      if_neg fun hsame => hother (of_decide_eq_true hsame)]
    exact fun _ => rfl
  · rw [amended.ofOrder_eq lawful.coherent hne]
    exact h.items_eq
  · rw [amended.payments_eq, Payment.filter_writeTo lawful.settled.sound follows hne]
    exact h.payments_eq

/-- The items that an amendment cancels were pending. -/
theorem withdrawn (h : purchase.StoredIn t) (lawful : t.Lawful)
    (amended : Order.Amended clock t order items change t') (reason : String) :
    List.Forall₂ (OrderItem.Move clock) purchase.items
      (OrderItem.cancelAll clock reason items purchase.items) := by
  rw [OrderItem.cancelAll, updateWhere, List.forall₂_map_right_iff, List.forall₂_same]
  intro item hitem
  obtain ⟨hstored, -⟩ := h.mem_items.mp hitem
  split
  next hmem =>
    obtain ⟨open_, hopen, heq⟩ :=
      amended.exists_item lawful.coherent hstored (of_decide_eq_true hmem)
    obtain rfl := OrderItem.row_injective heq
    refine .cancelled reason ?_
    have hcancellable := amended.items_open.cancellable item hopen
    rcases lawful.coherent.items_status item.row hstored with hpending | hcancelled
    · exact ItemStatus.word_inj.mp hpending
    · rw [ItemStatus.word_inj.mp hcancelled] at hcancellable
      cases hcancellable
  next => exact .kept

/-- Whether the order is cancelled can be read off its items. -/
theorem cancelled_iff (h : purchase.StoredIn t) (lawful : t.Lawful) :
    purchase.order.status = .cancelled ↔ ∀ item ∈ purchase.items, item.status = .cancelled := by
  have htotalled := (lawful.totalled purchase.order.row h.order_mem).cancelled_iff
  have hid : purchase.order.row.id = purchase.order.id := rfl
  rw [hid, h.items_eq] at htotalled
  rw [← OrderStatus.word_inj]
  refine htotalled.trans ?_
  rw [List.forall_mem_map]
  exact forall₂_congr fun item _ => ItemStatus.word_inj

end Purchase.StoredIn
end Storefront
