import Storefront.Proofs.Purchase.Evolution

/-!
What orders say of their payments. An order that is marked as paid or refunded has a payment to show
for it, unless it is delivered, and a paid payment is marked on its order. None of this is kept on
its own: a cancellation goes by the method of the order, and clears its mark unless a refund is due.
-/

namespace Storefront

/-- The order says of the payment that it is paid, at the time that the payment says. -/
structure Order.PaidBy (order : Order) (payment : Payment) : Prop where
  marked : order.paymentStatus = .paid
  paidAt_eq : order.paidAt = payment.paidAt
  paidAt_set : payment.paidAt.isSome
  online : order.status ≠ .delivered →
    order.paymentMethod = payment.method ∧ payment.method ≠ .cod

/-- What the order says of money that has come in or gone back is borne out by its payment. -/
structure Purchase.Backed (purchase : Purchase) : Prop where
  paid : ∀ payment, purchase.payment = some payment → payment.status = .paid →
    purchase.order.PaidBy payment
  of_paid : purchase.order.paymentStatus = .paid →
    purchase.order.status = .delivered ∨
      ∃ payment, purchase.payment = some payment ∧ payment.status = .paid
  of_refunded : purchase.order.paymentStatus = .refunded →
    ∃ payment, purchase.payment = some payment ∧ payment.status = .refunded
  paidAt_iff : purchase.order.paidAt.isSome ↔
    purchase.order.paymentStatus = .paid ∨ purchase.order.paymentStatus = .refunded
  of_delivered : purchase.order.status = .delivered →
    purchase.order.paymentStatus = .paid ∨ purchase.order.paymentStatus = .refunded

/-- An order that may be moved is not delivered. -/
theorem OrderStatus.ne_delivered_of_canBecome {status next : OrderStatus}
    (h : status.canBecome next) : status ≠ .delivered := by
  rintro rfl
  cases h

namespace Purchase.Backed

variable {clock : Clock} {now : Instant} {purchase next : Purchase} {items : List OrderItem}

theorem of_placed (h : purchase.IsPlaced) : purchase.Backed := by
  obtain ⟨hpending, hdue, hunpaid, hnone, -, -⟩ := h
  constructor
  · simp [hnone]
  · simp [hdue]
  · simp [hdue]
  · simp [hdue, hunpaid]
  · simp [hpending]

/-- While the order is on its way a paid payment is refunded when the order is cancelled. -/
theorem refundDue {payment : Payment} (h : purchase.Backed)
    (found : purchase.payment = some payment)
    (paid : payment.status = .paid) (undelivered : purchase.order.status ≠ .delivered) :
    purchase.order.refundDue purchase.payment := by
  obtain ⟨hmethod, honline⟩ := (h.paid payment found paid).online undelivered
  rw [Order.refundDue, found, Option.map_some, paid, hmethod]
  cases hcurrent : payment.method with
  | cod => exact absurd hcurrent honline
  | _ => rfl

/-- A change that leaves alone what the order says of its payment. -/
theorem quietly {order : Order} (h : purchase.Backed)
    (marked : order.paymentStatus = purchase.order.paymentStatus)
    (paidAt : order.paidAt = purchase.order.paidAt)
    (method : order.paymentMethod = purchase.order.paymentMethod)
    (status : order.status = purchase.order.status ∨
      purchase.order.status ≠ .delivered ∧ order.status ≠ .delivered) :
    Backed { purchase with order, items } := by
  have hdelivered : order.status = .delivered ↔ purchase.order.status = .delivered := by
    rcases status with hsame | ⟨hbefore, hafter⟩
    · rw [hsame]
    · exact iff_of_false hafter hbefore
  constructor
  · intro payment hpayment hpaid
    obtain ⟨hmarked, hpaidAt, hset, honline⟩ := h.paid payment hpayment hpaid
    refine ⟨marked.trans hmarked, paidAt.trans hpaidAt, hset, fun hopen => ?_⟩
    obtain ⟨hsame, hgateway⟩ := honline fun hclosed => hopen (hdelivered.mpr hclosed)
    exact ⟨method.trans hsame, hgateway⟩
  · intro hpaid
    exact (h.of_paid (marked.symm.trans hpaid)).imp_left hdelivered.mpr
  · intro hrefunded
    exact h.of_refunded (marked.symm.trans hrefunded)
  · change order.paidAt.isSome ↔ order.paymentStatus = .paid ∨ order.paymentStatus = .refunded
    rw [marked, paidAt]
    exact h.paidAt_iff
  · intro hclosed
    change order.paymentStatus = .paid ∨ order.paymentStatus = .refunded
    rw [marked]
    exact h.of_delivered (hdelivered.mp hclosed)

/-- A cancellation without a refund takes the mark off the order, whose payment is not paid. -/
theorem calledOff (h : purchase.Backed) (undelivered : purchase.order.status ≠ .delivered)
    (undue : ¬purchase.order.refundDue purchase.payment) :
    Backed {
      order := purchase.order.cancelled.withPaymentCancelled.stamp now
      items
      payment := purchase.payment.map (Payment.callOff now) } := by
  constructor
  · intro payment hfound hpaid
    obtain ⟨old, hold, rfl⟩ := Option.map_eq_some_iff.mp hfound
    unfold Payment.callOff at hpaid
    split at hpaid
    next => cases hpaid
    next => exact absurd (h.refundDue hold hpaid undelivered) undue
  · intro hcancelled
    cases hcancelled
  · intro hcancelled
    cases hcancelled
  · simp [Order.stamp, Order.withPaymentCancelled]
  · intro hdelivered
    cases hdelivered

/-- A delivered order is marked as paid, and its payment too if it was still to be paid. -/
theorem delivered (h : purchase.Backed) (wall : Instant) :
    Backed { purchase with
      order := (purchase.order.delivered wall).stamp now
      payment := purchase.payment.map
        (Payment.collect now (purchase.order.paidAt.getD wall)) } := by
  constructor
  · intro payment hfound hpaid
    obtain ⟨old, hold, rfl⟩ := Option.map_eq_some_iff.mp hfound
    unfold Payment.collect at hpaid ⊢
    split
    next => exact ⟨rfl, rfl, rfl, fun hopen => absurd rfl hopen⟩
    next hpending =>
      rw [if_neg hpending] at hpaid
      obtain ⟨-, hsame, hset, -⟩ := h.paid old hold hpaid
      refine ⟨rfl, ?_, hset, fun hopen => absurd rfl hopen⟩
      obtain ⟨paidAt, hpaidAt⟩ := Option.isSome_iff_exists.mp hset
      change some (purchase.order.paidAt.getD wall) = old.paidAt
      rw [hsame, hpaidAt]
      rfl
  · intro hpaid
    exact .inl rfl
  · intro hrefunded
    cases hrefunded
  · exact iff_of_true rfl (.inl rfl)
  · intro hdelivered
    exact .inl rfl

/-- Nothing has been paid for a pending order without a payment. -/
theorem opened {payment : Payment} (h : purchase.Backed)
    (pending : purchase.order.status = .pending)
    (unpaid : purchase.payment = none) (status : payment.status = .pending) :
    Backed { purchase with payment := some payment } := by
  have hpaid : purchase.order.paymentStatus ≠ .paid := by
    intro hpaid
    rcases h.of_paid hpaid with hdelivered | ⟨other, hother, -⟩
    · simp [pending] at hdelivered
    · simp [unpaid] at hother
  have hrefunded : purchase.order.paymentStatus ≠ .refunded := by
    intro hrefunded
    obtain ⟨other, hother, -⟩ := h.of_refunded hrefunded
    simp [unpaid] at hother
  constructor
  · rintro _ ⟨⟩ hstatus
    simp [status] at hstatus
  · exact fun hmarked => absurd hmarked hpaid
  · exact fun hmarked => absurd hmarked hrefunded
  · exact h.paidAt_iff
  · exact h.of_delivered

/-- A callback that reports success marks the payment and its order alike. -/
theorem confirmed {payment : Payment} (wall : Instant) (online : payment.method ≠ .cod) :
    Backed { purchase with
      order := (Payment.settledBy purchase.order payment wall).stamp now
      payment := some ((payment.confirmed .paid wall).stamp now) } := by
  constructor
  · rintro _ ⟨⟩ -
    exact ⟨rfl, rfl, rfl, fun _ => ⟨rfl, online⟩⟩
  · exact fun _ => .inr ⟨_, rfl, rfl⟩
  · intro hrefunded
    cases hrefunded
  · exact iff_of_true rfl (.inl rfl)
  · exact fun _ => .inl rfl

/-- A payment that failed was neither paid nor refunded. -/
theorem failed {payment failed : Payment} (h : purchase.Backed)
    (found : purchase.payment = some payment) (unsettled : payment.status.isUnsettled)
    (status : failed.status = .failed) : Backed { purchase with payment := some failed } := by
  constructor
  · rintro _ ⟨⟩ hpaid
    simp [status] at hpaid
  · intro hpaid
    rcases h.of_paid hpaid with hdelivered | ⟨other, hother, hstatus⟩
    · exact .inl hdelivered
    · obtain rfl : payment = other := Option.some.inj (found.symm.trans hother)
      simp [hstatus, PaymentStatus.isUnsettled] at unsettled
  · intro hrefunded
    obtain ⟨other, hother, hstatus⟩ := h.of_refunded hrefunded
    obtain rfl : payment = other := Option.some.inj (found.symm.trans hother)
    simp [hstatus, PaymentStatus.isUnsettled] at unsettled
  · exact h.paidAt_iff
  · exact h.of_delivered

/-- A refund marks the payment and its order alike, and keeps the time of the payment. -/
theorem refunded {order : Order} {payment : Payment} (h : purchase.Backed)
    (found : purchase.payment = some payment) (paid : payment.status = .paid)
    (marked : order.paymentStatus = .refunded) (paidAt : order.paidAt = purchase.order.paidAt) :
    Backed { order, items, payment := some (payment.giveBackAt now) } := by
  obtain ⟨hpaid, -, -, -⟩ := h.paid payment found paid
  have hset := h.paidAt_iff.mpr (.inl hpaid)
  constructor
  · rintro _ ⟨⟩ hrefunded
    cases hrefunded
  · intro hpaid
    simp [marked] at hpaid
  · exact fun _ => ⟨_, rfl, rfl⟩
  · change order.paidAt.isSome ↔ order.paymentStatus = .paid ∨ order.paymentStatus = .refunded
    rw [paidAt]
    exact iff_of_true hset (.inr marked)
  · exact fun _ => .inr marked

theorem move (h : purchase.Backed) (hmove : purchase.Move clock next) : next.Backed := by
  cases hmove with
  | kept => exact h
  | lessened => exact h.quietly rfl rfl rfl (.inl rfl)
  | cancelledPaid cancellable withdrawn emptied found paid => exact h.refunded found paid rfl rfl
  | cancelledUnpaid cancellable withdrawn emptied undue =>
    exact h.calledOff (OrderStatus.ne_delivered_of_canBecome cancellable) undue
  | refundMissed pending =>
    refine h.quietly rfl rfl rfl (.inr ⟨?_, by simp [Order.stamp, Order.cancelled]⟩)
    simp [pending]
  | advanced allowed undelivered =>
    have hbefore := OrderStatus.ne_delivered_of_canBecome allowed
    exact h.quietly rfl rfl rfl (.inr ⟨hbefore, undelivered⟩)
  | delivered => exact h.delivered clock.wall
  | intentCreated pending unpaid => exact h.opened pending unpaid rfl
  | confirmed found uncancelled unsettled online => exact confirmed clock.wall online
  | failed found uncancelled unsettled => exact h.failed found unsettled rfl
  | refunded found paid => exact h.refunded found paid rfl rfl

end Purchase.Backed

/-- Wherever a run that began without orders has come to, orders and payments agree on money. A paid
payment is marked on its order, with the same time and, until the order is delivered, with the same
method, which is not cash on delivery; an order is marked as paid only if it is delivered or has a
paid payment, and as refunded only if it has a refunded one; it has a time of payment if and only if
it is marked as paid or refunded, as every delivered order is. -/
theorem purchases_backed (currency : String) (steps : List Step) (start : Store)
    (served : ∀ step ∈ steps, step.IsServed) (orders : start.tables.orders = [])
    (items : start.tables.orderItems = []) (payments : start.tables.payments = []) :
    ∀ order ∈ (storeAfter currency steps start).tables.orders,
      (∀ payment ∈ (storeAfter currency steps start).tables.payments,
        payment.orderId = order.id → payment.status = word PaymentStatus.paid →
          order.paymentStatus = word PaymentStatus.paid ∧
            (∃ paidAt, order.paidAt = some paidAt ∧ payment.paidAt = some paidAt) ∧
            (order.status ≠ word OrderStatus.delivered →
              order.paymentMethod = payment.method ∧
                order.paymentMethod ≠ word PaymentMethod.cod)) ∧
        (order.paymentStatus = word PaymentStatus.paid →
          order.status = word OrderStatus.delivered ∨
            ∃ payment ∈ (storeAfter currency steps start).tables.payments,
              payment.orderId = order.id ∧ payment.status = word PaymentStatus.paid) ∧
        (order.paymentStatus = word PaymentStatus.refunded →
          ∃ payment ∈ (storeAfter currency steps start).tables.payments,
            payment.orderId = order.id ∧ payment.status = word PaymentStatus.refunded) ∧
        (order.paidAt.isSome ↔
          order.paymentStatus = word PaymentStatus.paid ∨
            order.paymentStatus = word PaymentStatus.refunded) ∧
        (order.status = word OrderStatus.delivered →
          order.paymentStatus = word PaymentStatus.paid ∨
            order.paymentStatus = word PaymentStatus.refunded) := by
  have hlawful : (storeAfter currency steps start).tables.Lawful :=
    lawful_storeAfter served (.of_empty orders items payments)
  intro row hrow
  obtain ⟨purchase, rfl, hstored⟩ := Purchase.StoredIn.exists_of_mem hlawful hrow
  have hbacked : purchase.Backed := Purchase.invariant_storeAfter (fun _ => .of_placed)
    (fun _ _ _ => .move) served orders items payments purchase hstored
  have hpayment {status : PaymentStatus}
      (h : ∃ payment, purchase.payment = some payment ∧ payment.status = status) :
      ∃ payment ∈ (storeAfter currency steps start).tables.payments,
        payment.orderId = purchase.order.id ∧ payment.status = word status := by
    obtain ⟨payment, hfound, hstatus⟩ := h
    obtain ⟨hmem, howner⟩ := hstored.mem_payments.mp hfound
    exact ⟨payment.row, hmem, howner, congrArg word hstatus⟩
  simp only [Order.row, ne_eq, OrderStatus.word_inj, PaymentStatus.word_inj]
  refine ⟨?_, fun hpaid => ?_, fun hrefunded => ?_, hbacked.paidAt_iff, hbacked.of_delivered⟩
  · intro row hrow howner hpaid
    obtain ⟨payment, rfl⟩ := hlawful.settled.sound.read row hrow
    have hfound : purchase.payment = some payment := hstored.mem_payments.mpr ⟨hrow, howner⟩
    obtain ⟨hmarked, hsame, hset, honline⟩ :=
      hbacked.paid payment hfound (PaymentStatus.word_inj.mp hpaid)
    obtain ⟨paidAt, hpaidAt⟩ := Option.isSome_iff_exists.mp hset
    refine ⟨hmarked, ⟨paidAt, hsame.trans hpaidAt, hpaidAt⟩, fun hopen => ?_⟩
    obtain ⟨hmethod, hgateway⟩ := honline hopen
    refine ⟨congrArg word hmethod, fun hcod => hgateway ?_⟩
    rw [hmethod] at hcod
    exact PaymentMethod.word_inj.mp hcod
  · exact (hbacked.of_paid hpaid).imp_right hpayment
  · exact hpayment (hbacked.of_refunded hrefunded)

/-- A purchase that is paid for through a gateway. -/
def Step.paidFor : List Step :=
  [ofCall (.placeDirect 7 6 .cod [⟨3, 2⟩]), ofCall (.createIntent 7 1 .razorpay),
    ofCall (.confirmPayment "razorpay_order_00000000000040008000000000000001" "success")]

theorem purchases_paidFor :
    (storeAfter "INR" Step.paidFor .stocked).tables.payments.map (·.status) = ["paid"] ∧
      ∀ order ∈ (storeAfter "INR" Step.paidFor .stocked).tables.orders,
        ∀ payment ∈ (storeAfter "INR" Step.paidFor .stocked).tables.payments,
          payment.orderId = order.id → payment.status = word PaymentStatus.paid →
            order.paymentStatus = word PaymentStatus.paid := by
  have hserved : ∀ step ∈ Step.paidFor, step.IsServed := by
    simp [Step.paidFor, Step.isServed_ofCall]
  refine ⟨by decide +kernel, fun order horder payment hpayment howner hpaid => ?_⟩
  obtain ⟨hmarked, -⟩ :=
    purchases_backed "INR" Step.paidFor .stocked hserved rfl rfl rfl order horder
  exact (hmarked payment hpayment howner hpaid).1

end Storefront
