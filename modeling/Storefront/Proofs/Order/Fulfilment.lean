import Storefront.Proofs.Order.Cancellation

/-!
What an administrator's move of an order does. Only a move to the cancelled state touches items;
deliveries and cancellations may change the payment of the order.
-/

namespace Storefront

open Session

variable {context : Context} {p p' : Progress}

namespace Order

/-- The payment of an order that is delivered, if it was still to be paid. -/
def paidOnDelivery (paidAt : Instant) (payment : Option Payment) : Option Payment :=
  (payment.filter (·.status = .pending)).map fun payment =>
    { payment with status := .paid, paidAt := some paidAt }

/-- What a move makes of an order, with the payment that it writes back. -/
def moved (order : Order) (next : OrderStatus) (now : Instant) (payment : Option Payment) :
    Order × Option Payment :=
  match next with
  | .delivered =>
    let paidAt := order.paidAt.getD now
    ({ order with status := .delivered, paymentStatus := .paid, paidAt := some paidAt },
      paidOnDelivery paidAt payment)
  | .cancelled =>
    let settled := settledOnCancel { order with finalTotal := 0 } payment
    ({ settled.1 with status := .cancelled }, settled.2)
  | next => ({ order with status := next }, none)

/-- The items that a move cancels. -/
def withdrawnBy (next : OrderStatus) (items : List OrderItem) : List OrderItem :=
  if next = .cancelled then OrderItem.openByProduct items else []

/-- An order is moved to another state; `items` are its items if it is cancelled. -/
structure Moved (clock : Clock) (id : OrderId) (next : OrderStatus) (t : Tables) (order : Order)
    (items : List OrderItem) (payment : Option Payment) (t' : Tables) : Prop where
  order_found : t.orders.find? (fun row => row.id = id) = some order.row
  allowed : order.status.canBecome next
  items_listed : next = .cancelled → OrderItem.ListedIn id items t.orderItems
  payment_found : Payment.FoundIn id payment t.payments
  changed : ∃ withdrawn,
    OrderItem.Withdrawn clock "Cancelled by admin" (withdrawnBy next items) t withdrawn ∧
      t' = withdrawn.amend clock.store (order.moved next clock.wall payment)

theorem fixed_moved (order : Order) (next : OrderStatus) (now : Instant)
    (payment : Option Payment) : (order.moved next now payment).1.fixed = order.fixed := by
  cases next with
  | cancelled => exact fixed_settledOnCancel { order with finalTotal := 0 } payment
  | _ => rfl

theorem withdrawn_nil {clock : Clock} {reason : String} (t : Tables) :
    OrderItem.Withdrawn clock reason [] t t :=
  ⟨t.products, .nil _, by rw [ItemRow.cancelAll_nil]⟩

theorem returns_payOnDelivery {paidAt : Instant} {payment : Option Payment} {u : Unit}
    (calm : p.fault = none)
    (h : Returns (payment.forM (payOnDelivery paidAt)) context p u p') :
    p'.tables = { p.tables with
      payments := Payment.writeTo context.clock.store (paidOnDelivery paidAt payment)
        p.tables.payments } := by
  cases payment with
  | none =>
    obtain ⟨-, rfl⟩ := returns_pure.mp h
    rfl
  | some payment =>
    change Returns (payOnDelivery paidAt payment) context p u p' at h
    by_cases hpending : payment.status = .pending
    · rw [payOnDelivery, if_pos hpending] at h
      obtain ⟨saved, hsaved⟩ := returns_discard.mp h
      obtain ⟨row, -, -, -, rfl⟩ := (Payment.returns_save calm).mp hsaved
      simp [paidOnDelivery, Option.filter, hpending]
    · rw [payOnDelivery, if_neg hpending] at h
      obtain ⟨-, rfl⟩ := returns_pure.mp h
      simp [paidOnDelivery, Option.filter, hpending, Payment.writeTo]

theorem returns_emptyOnCancel {next : OrderStatus} {order emptied : Order} (calm : p.fault = none)
    (h : Returns (emptyOnCancel next context.clock.wall order) context p emptied p') :
    emptied = (if next = .cancelled then { order with finalTotal := 0 } else order) ∧
      ∃ items, (next = .cancelled → OrderItem.ListedIn order.id items p.tables.orderItems) ∧
        OrderItem.Withdrawn context.clock "Cancelled by admin" (withdrawnBy next items) p.tables
          p'.tables := by
  unfold emptyOnCancel at h
  unfold withdrawnBy
  by_cases hnext : next = .cancelled
  · simp only [hnext, if_true, returns_bind, returns_pure] at h ⊢
    obtain ⟨⟨⟩, middle, hloop, rfl, rfl⟩ := h
    obtain ⟨items, hlisted, hwithdrawn⟩ := withdrawn_of_returns_cancelOpenItems calm hloop
    exact ⟨rfl, items, fun _ => hlisted, hwithdrawn⟩
  · simp only [hnext, if_false, returns_pure] at h ⊢
    obtain ⟨rfl, rfl⟩ := h
    exact ⟨rfl, [], fun h => absurd h id, withdrawn_nil _⟩

/-- Settling an order for its next state changes its payment only. -/
theorem returns_settle {next : OrderStatus} {order settled : Order} {payment : Option Payment}
    (calm : p.fault = none)
    (h : Returns (settle next context.clock.wall
      (if next = .cancelled then { order with finalTotal := 0 } else order) payment)
      context p settled p') :
    { settled with status := next } = (order.moved next context.clock.wall payment).1 ∧
      p'.tables = { p.tables with
        payments := Payment.writeTo context.clock.store
          (order.moved next context.clock.wall payment).2 p.tables.payments } := by
  cases next with
  | delivered =>
    obtain ⟨⟨⟩, middle, hpaid, hnext⟩ := returns_bind.mp h
    obtain ⟨rfl, rfl⟩ := returns_pure.mp hnext
    exact ⟨rfl, returns_payOnDelivery calm hpaid⟩
  | cancelled =>
    obtain ⟨rfl, hsettled⟩ := returns_settleOnCancel calm h
    exact ⟨rfl, hsettled⟩
  | _ =>
    obtain ⟨rfl, rfl⟩ := returns_pure.mp h
    exact ⟨rfl, rfl⟩

theorem moved_of_returns {id : OrderId} {next : OrderStatus} {answer : Order × OrderStatus}
    (calm : p.fault = none) (h : Returns (move id next) context p answer p') :
    ∃ order items payment,
      Moved context.clock id next p.tables order items payment p'.tables ∧
      answer = ((order.moved next context.clock.wall payment).1.stamp context.clock.store,
        order.status) := by
  unfold move at h
  simp only [returns_transaction, returns_bind, returns_find calm, returns_found, returns_require,
    returns_wallTime, returns_pure, and_assoc, exists_and_left, exists_eq_left, exists_const] at h
  obtain ⟨_, horder, order, rfl, hallowed, emptied, middle, hempty, payment, after, hpayment,
    settled, last, hsettle, saved, final, hsave, rfl, rfl⟩ := h
  obtain rfl := id_of_found horder
  obtain ⟨rfl, items, hlisted, hwithdrawn⟩ := returns_emptyOnCancel calm hempty
  have calm' : middle.fault = none := hempty.fault_eq_none calm
  obtain ⟨hpayment, rfl⟩ := (Payment.returns_findForOrder calm').mp hpayment
  rw [hwithdrawn.payments_eq] at hpayment
  obtain ⟨hnext, hsettled⟩ := returns_settle calm' hsettle
  have hfound : last.tables.orders.find? (fun row => row.id = order.id) = some order.row := by
    rw [hsettled]
    exact (congrArg _ hwithdrawn.orders_eq).trans horder
  rw [hnext] at hsave
  obtain ⟨rfl, hsaved⟩ := returns_save_of_found (hsettle.fault_eq_none calm') hfound
    (fixed_moved order next context.clock.wall payment) hsave
  refine ⟨order, items, payment, ?_, rfl⟩
  refine ⟨horder, hallowed, hlisted, hpayment, _, hwithdrawn, ?_⟩
  rw [hsaved, hsettled]
  rfl

end Order
end Storefront
