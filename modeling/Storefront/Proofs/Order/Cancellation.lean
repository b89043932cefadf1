import Storefront.Proofs.Order.Amendment

/-!
What cancellations do. The cancellation of one item and that of a pending order each come to one
amendment of the order and, where nothing is left open, of its payment.
-/

namespace Storefront

open Session

variable {context : Context} {p p' : Progress}

namespace Payment

/-- The payment as it is called off, unless money has moved. -/
def calledOff (payment : Option Payment) : Option Payment :=
  (payment.filter (·.status.isUnsettled)).map fun payment => { payment with status := .cancelled }

theorem returns_refund {payment saved : Payment} :
    Returns (refund payment) context p saved p' ↔
      payment.status = .paid ∧
        Returns (save { payment with status := .refunded }) context p saved p' := by
  unfold refund
  split
  next hpaid => simp [hpaid]
  next hpaid => simp [hpaid]

end Payment

namespace Order

/-- Whether money that has come in online goes back when the order is cancelled. -/
def refundDue (order : Order) (payment : Option Payment) : Bool :=
  !order.paymentMethod.isCashOnDelivery && payment.map (·.status) = some .paid

theorem paymentStatusAfter_cancelled (order : Order) (payment : Option Payment) :
    paymentStatusAfter .cancelled order.paymentMethod (payment.map (·.status)) =
      if order.refundDue payment then some .refunded else some .cancelled := rfl

theorem exists_paid_of_refundDue {order : Order} {payment : Option Payment}
    (h : order.refundDue payment) :
    order.paymentMethod ≠ .cod ∧ ∃ paid, payment = some paid ∧ paid.status = .paid := by
  unfold refundDue at h
  rw [Bool.and_eq_true, Bool.not_eq_true', decide_eq_true_eq, Option.map_eq_some_iff] at h
  obtain ⟨hmethod, paid, hpaid, hstatus⟩ := h
  refine ⟨fun hcod => ?_, paid, hpaid, hstatus⟩
  rw [hcod] at hmethod
  exact absurd hmethod (by decide)

/-- What a cancellation makes of an order of which nothing is left open, with the payment that it
writes back. -/
def settledOnCancel (order : Order) (payment : Option Payment) : Order × Option Payment :=
  if order.refundDue payment then
    ({ order with paymentStatus := .refunded },
      payment.map fun paid => { paid with status := .refunded })
  else (order.withPaymentCancelled, Payment.calledOff payment)

/-- What the cancellation of one item makes of its order, of which `items` are the items then. -/
def lessItem (order : Order) (items : List OrderItem) (payment : Option Payment) :
    Order × Option Payment :=
  let order := { order with finalTotal := openTotal items }
  if allCancelled items then settledOnCancel { order with status := .cancelled } payment
  else (order, none)

/-- What a user's cancellation makes of a pending order. A refund that is due is left for later. -/
def calledOff (order : Order) (payment : Option Payment) : Order × Option Payment :=
  let cancelled := { order with status := .cancelled, finalTotal := 0 }
  if order.refundDue payment then (cancelled, none)
  else (cancelled.withPaymentCancelled, Payment.calledOff payment)

theorem returns_cancelPayment {payment : Option Payment} {u : Unit} (calm : p.fault = none)
    (h : Returns (cancelPayment payment) context p u p') :
    p'.tables = { p.tables with
      payments := Payment.writeTo context.clock.store (Payment.calledOff payment)
        p.tables.payments } := by
  cases payment with
  | none =>
    obtain ⟨-, rfl⟩ := returns_pure.mp h
    rfl
  | some payment =>
    by_cases hopen : payment.status.isUnsettled
    · rw [cancelPayment, if_pos hopen] at h
      obtain ⟨saved, hsaved⟩ := returns_discard.mp h
      obtain ⟨row, -, -, -, rfl⟩ := (Payment.returns_save calm).mp hsaved
      simp [Payment.calledOff, Option.filter, hopen]
    · rw [cancelPayment, if_neg hopen] at h
      obtain ⟨-, rfl⟩ := returns_pure.mp h
      simp [Payment.calledOff, Option.filter, hopen, Payment.writeTo]

theorem returns_settleOnCancel {order next : Order} {payment : Option Payment}
    (calm : p.fault = none) (h : Returns (settleOnCancel order payment) context p next p') :
    next = (order.settledOnCancel payment).1 ∧
      p'.tables = { p.tables with
        payments := Payment.writeTo context.clock.store (order.settledOnCancel payment).2
          p.tables.payments } := by
  unfold settleOnCancel at h
  rw [paymentStatusAfter_cancelled] at h
  unfold settledOnCancel
  by_cases hdue : order.refundDue payment
  · obtain ⟨-, paid, rfl, -⟩ := exists_paid_of_refundDue hdue
    simp only [hdue, if_true, returns_bind, returns_discard] at h ⊢
    obtain ⟨_, middle, ⟨saved, hrefund⟩, hnext⟩ := h
    obtain ⟨rfl, rfl⟩ := returns_pure.mp hnext
    obtain ⟨-, hsaved⟩ := Payment.returns_refund.mp hrefund
    obtain ⟨row, -, -, -, rfl⟩ := (Payment.returns_save calm).mp hsaved
    exact ⟨rfl, rfl⟩
  · simp only [hdue, Bool.false_eq_true, if_false, returns_bind] at h ⊢
    obtain ⟨_, middle, hcancel, hnext⟩ := h
    obtain ⟨rfl, rfl⟩ := returns_pure.mp hnext
    exact ⟨rfl, returns_cancelPayment calm hcancel⟩

theorem fixed_settledOnCancel (order : Order) (payment : Option Payment) :
    (order.settledOnCancel payment).1.fixed = order.fixed := by
  unfold settledOnCancel
  split <;> rfl

/-- One item of an order is cancelled. -/
structure ItemCancelled (clock : Clock) (user : UserId) (id : OrderId) (itemId : ItemId)
    (reason : String) (t : Tables) (order : Order) (item : OrderItem) (items : List OrderItem)
    (payment : Option Payment) (t' : Tables) : Prop where
  order_found : t.orders.find? (fun row => row.id = id) = some order.row
  owner : order.userId = user
  not_shipped : order.status ≠ .shipped
  not_delivered : order.status ≠ .delivered
  item_found : t.orderItems.find? (fun row => row.id = itemId && row.orderId = id) = some item.row
  item_open : item.status.isCancellable
  items_listed : OrderItem.ListedIn id items (ItemRow.cancelAll clock reason [item] t.orderItems)
  payment_found : allCancelled items → Payment.FoundIn id payment t.payments
  changed : ∃ withdrawn, OrderItem.Withdrawn clock reason [item] t withdrawn ∧
    t' = withdrawn.amend clock.store (order.lessItem items payment)

/-- A user's pending order is cancelled; the answer says whether a refund is due. -/
structure CalledOff (clock : Clock) (user : UserId) (id : OrderId) (t : Tables) (order : Order)
    (items : List OrderItem) (payment : Option Payment) (t' : Tables) : Prop where
  order_found : t.orders.find? (fun row => row.id = id) = some order.row
  owner : order.userId = user
  pending : order.status = .pending
  items_listed : OrderItem.ListedIn id items t.orderItems
  payment_found : Payment.FoundIn id payment t.payments
  changed : ∃ withdrawn, OrderItem.Withdrawn clock "Cancelled by customer"
      (OrderItem.openByProduct items) t withdrawn ∧
    t' = withdrawn.amend clock.store (order.calledOff payment)

theorem itemCancelled_of_returns {user : UserId} {id : OrderId} {itemId : ItemId} {reason : String}
    {answer : Order} (calm : p.fault = none)
    (h : Returns (withdrawItem user id itemId reason) context p answer p') :
    ∃ order item items payment,
      ItemCancelled context.clock user id itemId reason p.tables order item items payment
        p'.tables ∧
      answer = (order.lessItem items payment).1.stamp context.clock.store := by
  unfold withdrawItem at h
  simp only [returns_transaction, returns_bind, returns_find calm, returns_found,
    returns_requireOwner, returns_require, OrderItem.returns_find calm, returns_wallTime,
    and_assoc, exists_and_left, exists_eq_left, exists_const, Bool.and_eq_true,
    decide_eq_true_eq] at h
  obtain ⟨_, horder, order, rfl, howner, hshipped, hdelivered, _, hitem, item, rfl, hopen, ⟨⟩,
    middle, hone, items, after, hitems, h⟩ := h
  obtain rfl := id_of_found horder
  have calm' : middle.fault = none := hone.fault_eq_none calm
  obtain ⟨hlisted, rfl⟩ := (OrderItem.returns_listFor calm').mp hitems
  have hwithdrawn := withdrawn_of_returns_cancelOne calm hone
  have hfound : after.tables.orders.find? (fun row => row.id = order.id) = some order.row := by
    rw [hwithdrawn.orders_eq]
    exact horder
  rw [hwithdrawn.orderItems_eq] at hlisted
  by_cases hall : allCancelled items
  · simp only [hall, if_true, returns_bind, Payment.returns_findForOrder calm', and_assoc,
      exists_and_left, exists_eq_left] at h
    obtain ⟨payment, hpayment, next, settled, hsettle, hsave⟩ := h
    obtain ⟨rfl, hsettled⟩ := returns_settleOnCancel calm' hsettle
    have hfixed : (settledOnCancel { order with
        status := .cancelled, finalTotal := openTotal items } payment).1.fixed = order.fixed :=
      fixed_settledOnCancel _ payment
    have hfound' : settled.tables.orders.find? (fun row => row.id = order.id) = some order.row := by
      rw [hsettled]
      exact hfound
    obtain ⟨hanswer, hsaved⟩ :=
      returns_save_of_found (hsettle.fault_eq_none calm') hfound' hfixed hsave
    rw [hwithdrawn.payments_eq] at hpayment
    refine ⟨order, item, items, payment, ?_, ?_⟩
    · refine ⟨horder, howner, hshipped, hdelivered, hitem, hopen, hlisted, fun _ => hpayment, _,
        hwithdrawn, ?_⟩
      rw [hsaved, hsettled, lessItem, if_pos hall]
      rfl
    · rw [hanswer, lessItem, if_pos hall]
  · simp only [hall, Bool.false_eq_true, if_false] at h
    have hfixed : Order.fixed { order with finalTotal := openTotal items } = order.fixed := rfl
    obtain ⟨hanswer, hsaved⟩ := returns_save_of_found calm' hfound hfixed h
    refine ⟨order, item, items, none, ?_, ?_⟩
    · refine ⟨horder, howner, hshipped, hdelivered, hitem, hopen, hlisted,
        fun h => absurd h hall, _, hwithdrawn, ?_⟩
      rw [hsaved, lessItem, if_neg hall]
      rfl
    · rw [hanswer, lessItem, if_neg hall]

theorem calledOff_of_returns {user : UserId} {id : OrderId} {answer : Order × Bool}
    (calm : p.fault = none) (h : Returns (cancelPending user id) context p answer p') :
    ∃ order items payment,
      CalledOff context.clock user id p.tables order items payment p'.tables ∧
      answer = ((order.calledOff payment).1.stamp context.clock.store,
        order.refundDue payment) := by
  unfold cancelPending at h
  simp only [returns_transaction, returns_bind, returns_find calm, returns_found,
    returns_requireOwner, returns_require, returns_wallTime, and_assoc, exists_and_left,
    exists_eq_left, exists_const, decide_eq_true_eq, paymentStatusAfter_cancelled] at h
  obtain ⟨_, horder, order, rfl, howner, hpending, ⟨⟩, middle, hloop, payment, after, hpayment,
    h⟩ := h
  obtain rfl := id_of_found horder
  have calm' : middle.fault = none := hloop.fault_eq_none calm
  obtain ⟨hpayment, rfl⟩ := (Payment.returns_findForOrder calm').mp hpayment
  obtain ⟨items, hlisted, hwithdrawn⟩ := withdrawn_of_returns_cancelOpenItems calm hloop
  have hfound : after.tables.orders.find? (fun row => row.id = order.id) = some order.row := by
    rw [hwithdrawn.orders_eq]
    exact horder
  rw [hwithdrawn.payments_eq] at hpayment
  by_cases hdue : order.refundDue payment
  · simp only [hdue, if_true, returns_bind, returns_pure] at h
    obtain ⟨saved, last, hsave, rfl, rfl⟩ := h
    have hfixed : Order.fixed { order with status := .cancelled, finalTotal := 0 } = order.fixed :=
      rfl
    obtain ⟨rfl, hsaved⟩ := returns_save_of_found calm' hfound hfixed hsave
    refine ⟨order, items, payment, ?_, ?_⟩
    · refine ⟨horder, howner, hpending, hlisted, hpayment, _, hwithdrawn, ?_⟩
      rw [hsaved, calledOff, if_pos hdue]
      rfl
    · rw [calledOff, if_pos hdue, hdue]
  · simp only [hdue, Bool.false_eq_true, if_false, returns_bind, returns_pure, Option.some.injEq,
      reduceCtorEq] at h
    obtain ⟨⟨⟩, settled, hcancel, saved, last, hsave, rfl, rfl⟩ := h
    have hsettled := returns_cancelPayment calm' hcancel
    have hfixed : (withPaymentCancelled { order with
        status := .cancelled, finalTotal := 0 }).fixed = order.fixed := rfl
    have hfound' : settled.tables.orders.find? (fun row => row.id = order.id) = some order.row := by
      rw [hsettled]
      exact hfound
    obtain ⟨rfl, hsaved⟩ :=
      returns_save_of_found (hcancel.fault_eq_none calm') hfound' hfixed hsave
    refine ⟨order, items, payment, ?_, ?_⟩
    · refine ⟨horder, howner, hpending, hlisted, hpayment, _, hwithdrawn, ?_⟩
      rw [hsaved, hsettled, calledOff, if_neg hdue]
      rfl
    · rw [calledOff, if_neg hdue, Bool.eq_false_iff.mpr hdue]

/-- A cancellation of which no refund is due ends with its announcement. -/
theorem returns_cancel_of_not_due {user : UserId} {id : OrderId} {answer : Order × Bool}
    (h : Returns (cancelPending user id) context p answer p') (undue : ¬answer.2) :
    Returns (cancel user id) context p answer.1
      { p' with events := p'.events ++ [.orderCancelled answer.1] } := by
  refine returns_bind.mpr ⟨answer, p', h, returns_bind.mpr ⟨⟨⟩, _, returns_announce.mpr rfl, ?_⟩⟩
  rw [if_neg undue]
  exact returns_pure.mpr ⟨rfl, rfl⟩

/-- A refund that is due is made once the cancellation is announced. -/
theorem returns_cancel_of_due {user : UserId} {id : OrderId} {answer : Order × Bool}
    {refunded : Payment} {last : Progress} (h : Returns (cancelPending user id) context p answer p')
    (due : answer.2) (hrefund : Returns (Payment.refundForOrder id) context
      { p' with events := p'.events ++ [.orderCancelled answer.1] } refunded last) :
    Returns (cancel user id) context p { answer.1 with paymentStatus := .refunded } last := by
  refine returns_bind.mpr ⟨answer, p', h, returns_bind.mpr ⟨⟨⟩, _, returns_announce.mpr rfl, ?_⟩⟩
  rw [if_pos due]
  exact returns_bind.mpr
    ⟨.ok refunded, last, returns_attempt.mpr hrefund, returns_pure.mpr ⟨rfl, rfl⟩⟩

end Order
end Storefront
