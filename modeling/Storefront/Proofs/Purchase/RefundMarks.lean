import Storefront.Proofs.Payment.LifeCycle

/-!
Refunds and what orders say of them. A refund marks the payment and its order alike, and the mark of
the payment stays. That of the order is lost when the order is delivered or cancelled later: a
delivery marks the order as paid, and a cancellation finds nothing that it could refund and takes
off the mark.
-/

namespace Storefront

/-- The store has a refunded payment of the order. -/
def Store.HasRefunded (store : Store) (id : OrderId) : Prop :=
  ∃ payment ∈ store.tables.payments,
    payment.orderId = id ∧ payment.status = word PaymentStatus.refunded

/-- The step delivers or cancels the order, whose payment has been refunded before. -/
def Step.ClosesRefunded (currency : String) (step : Step) (store : Store) (id : OrderId) : Prop :=
  store.HasRefunded id ∧
    ∃ order ∈ store.tables.orders, ∃ next ∈ (step.run currency store).store.tables.orders,
      order.id = id ∧ next.id = id ∧ next.status ≠ order.status ∧
        (next.status = word OrderStatus.delivered ∨ next.status = word OrderStatus.cancelled)

/-- A step of the run delivers or cancels the order after its payment has been refunded. -/
def RefundClosed (currency : String) (start : Store) (steps : List Step) (id : OrderId) : Prop :=
  ∃ before step after, steps = before ++ step :: after ∧
    step.ClosesRefunded currency (storeAfter currency before start) id

/-- The payment of the purchase is refunded. -/
def Purchase.IsRefunded (purchase : Purchase) : Prop :=
  ∃ payment, purchase.payment = some payment ∧ payment.status = .refunded

/-- The order of the one purchase is delivered or cancelled in the other. -/
def Purchase.ClosedBy (purchase next : Purchase) : Prop :=
  next.order.status ≠ purchase.order.status ∧
    (next.order.status = .delivered ∨ next.order.status = .cancelled)

namespace Purchase

variable {clock : Clock} {t : Tables} {purchase next : Purchase}

/-- A refund is never undone. -/
theorem Move.isRefunded (h : purchase.Move clock next) (refunded : purchase.IsRefunded) :
    next.IsRefunded := by
  obtain ⟨payment, hfound, hstatus⟩ := refunded
  obtain ⟨later, hlater, hmove⟩ := h.payment_moves hfound
  have hleads := hmove.leads
  rw [hstatus] at hleads
  exact ⟨later, hlater, hleads.eq_of_final fun _ => rfl⟩

/-- A refund marks the order. -/
theorem Move.marked_of_refund (h : purchase.Move clock next) (before : ¬purchase.IsRefunded)
    (after : next.IsRefunded) : next.order.paymentStatus = .refunded := by
  obtain ⟨later, hlater, hstatus⟩ := after
  have hkept (hsame : next.payment = purchase.payment) : False :=
    before ⟨later, hsame.symm.trans hlater, hstatus⟩
  cases h with
  | cancelledPaid => rfl
  | cancelledUnpaid =>
    obtain ⟨payment, hpayment, rfl⟩ := Option.map_eq_some_iff.mp hlater
    unfold Payment.callOff at hstatus
    split at hstatus
    next => cases hstatus
    next => exact absurd ⟨payment, hpayment, hstatus⟩ before
  | delivered =>
    obtain ⟨payment, hpayment, rfl⟩ := Option.map_eq_some_iff.mp hlater
    unfold Payment.collect at hstatus
    split at hstatus
    next => cases hstatus
    next => exact absurd ⟨payment, hpayment, hstatus⟩ before
  | intentCreated =>
    obtain rfl := Option.some.inj hlater
    cases hstatus
  | confirmed =>
    obtain rfl := Option.some.inj hlater
    cases hstatus
  | failed =>
    obtain rfl := Option.some.inj hlater
    cases hstatus
  | refunded => rfl
  | _ => exact (hkept rfl).elim

/-- What an order says of a refund is lost when the order is delivered or cancelled, and only
then. -/
theorem Move.refunded_iff (h : purchase.Move clock next) (refunded : purchase.IsRefunded) :
    next.order.paymentStatus = .refunded ↔
      purchase.order.paymentStatus = .refunded ∧ ¬purchase.ClosedBy next := by
  have hquiet (marked : next.order.paymentStatus = purchase.order.paymentStatus)
      (hopen : ¬purchase.ClosedBy next) : next.order.paymentStatus = .refunded ↔
        purchase.order.paymentStatus = .refunded ∧ ¬purchase.ClosedBy next := by
    rw [marked]
    exact (and_iff_left hopen).symm
  have hlost (lost : next.order.paymentStatus ≠ .refunded) (hclosed : purchase.ClosedBy next) :
      next.order.paymentStatus = .refunded ↔
        purchase.order.paymentStatus = .refunded ∧ ¬purchase.ClosedBy next :=
    iff_of_false lost fun hkept => hkept.2 hclosed
  obtain ⟨payment, hfound, hstatus⟩ := refunded
  cases h with
  | kept => exact hquiet rfl fun hclosed => hclosed.1 rfl
  | lessened => exact hquiet rfl fun hclosed => hclosed.1 rfl
  | cancelledPaid cancellable withdrawn emptied found paid =>
    obtain rfl : payment = _ := Option.some.inj (hfound.symm.trans found)
    simp [hstatus] at paid
  | cancelledUnpaid cancellable =>
    refine hlost (fun hmarked => by cases hmarked) ⟨?_, .inr rfl⟩
    intro hsame
    change OrderStatus.cancelled = purchase.order.status at hsame
    simp [← hsame, OrderStatus.canBecome] at cancellable
  | refundMissed pending due => simp [Order.refundDue, hfound, hstatus] at due
  | advanced allowed undelivered uncancelled =>
    exact hquiet rfl fun hclosed => hclosed.2.elim undelivered uncancelled
  | delivered allowed =>
    refine hlost (fun hmarked => by cases hmarked) ⟨?_, .inl rfl⟩
    intro hsame
    change OrderStatus.delivered = purchase.order.status at hsame
    simp [← hsame, OrderStatus.canBecome] at allowed
  | intentCreated pending unpaid => simp [unpaid] at hfound
  | confirmed found uncancelled unsettled =>
    obtain rfl : payment = _ := Option.some.inj (hfound.symm.trans found)
    simp [hstatus, PaymentStatus.isUnsettled] at unsettled
  | failed found uncancelled unsettled =>
    obtain rfl : payment = _ := Option.some.inj (hfound.symm.trans found)
    simp [hstatus, PaymentStatus.isUnsettled] at unsettled
  | refunded found paid =>
    obtain rfl : payment = _ := Option.some.inj (hfound.symm.trans found)
    simp [hstatus] at paid

namespace StoredIn

variable {store : Store}

theorem hasRefunded_iff (h : purchase.StoredIn store.tables) (lawful : store.tables.Lawful) :
    store.HasRefunded purchase.order.id ↔ purchase.IsRefunded := by
  constructor
  · rintro ⟨row, hrow, howner, hstatus⟩
    obtain ⟨payment, rfl⟩ := lawful.settled.sound.read row hrow
    exact ⟨payment, h.mem_payments.mpr ⟨hrow, howner⟩, PaymentStatus.word_inj.mp hstatus⟩
  · rintro ⟨payment, hfound, hstatus⟩
    obtain ⟨hrow, howner⟩ := h.mem_payments.mp hfound
    exact ⟨payment.row, hrow, howner, congrArg word hstatus⟩

/-- The only row of its order is that of the purchase. -/
theorem row_eq (h : purchase.StoredIn t) (lawful : t.Lawful) {row : OrderRow}
    (hrow : row ∈ t.orders) (hid : row.id = purchase.order.id) : row = purchase.order.row :=
  eq_of_key_eq lawful.coherent.orders_key hrow h.order_mem hid

theorem closesRefunded_iff {currency : String} {step : Step} (served : step.IsServed)
    (h : purchase.StoredIn store.tables) (lawful : store.tables.Lawful)
    (h' : next.StoredIn (step.run currency store).store.tables)
    (own : next.order.id = purchase.order.id) :
    step.ClosesRefunded currency store purchase.order.id ↔
      purchase.IsRefunded ∧ purchase.ClosedBy next := by
  have hlawful : (step.run currency store).store.tables.Lawful := Step.lawful served lawful
  refine and_congr (h.hasRefunded_iff lawful) ?_
  constructor
  · rintro ⟨row, hrow, row', hrow', hid, hid', hmoved, hclosed⟩
    obtain rfl := h.row_eq lawful hrow hid
    obtain rfl := h'.row_eq hlawful hrow' (hid'.trans own.symm)
    simp only [Order.row, ne_eq, OrderStatus.word_inj] at hmoved hclosed
    exact ⟨hmoved, hclosed⟩
  · rintro ⟨hmoved, hclosed⟩
    refine ⟨_, h.order_mem, _, h'.order_mem, rfl, own, ?_⟩
    simp only [Order.row, ne_eq, OrderStatus.word_inj]
    exact ⟨hmoved, hclosed⟩

end StoredIn
end Purchase

namespace RefundClosed

variable {currency : String} {start : Store} {steps : List Step} {step : Step} {id : OrderId}

theorem snoc_iff : RefundClosed currency start (steps ++ [step]) id ↔
    RefundClosed currency start steps id ∨
      step.ClosesRefunded currency (storeAfter currency steps start) id := by
  constructor
  · rintro ⟨before, other, after, hsplit, hcloses⟩
    rcases split_snoc hsplit with ⟨rfl, rfl, -⟩ | ⟨rest, -, hinit⟩
    · exact .inr hcloses
    · exact .inl ⟨before, other, rest, hinit, hcloses⟩
  · rintro (⟨before, other, after, rfl, hcloses⟩ | hcloses)
    · exact ⟨before, other, after ++ [step], by simp, hcloses⟩
    · exact ⟨steps, step, [], rfl, hcloses⟩

end RefundClosed

/-- A step keeps refunded payments. -/
theorem Step.hasRefunded (currency : String) {step : Step} {store : Store} {id : OrderId}
    (served : step.IsServed) (lawful : store.tables.Lawful) (h : store.HasRefunded id) :
    (step.run currency store).store.HasRefunded id := by
  have hlawful : (step.run currency store).store.tables.Lawful := Step.lawful served lawful
  obtain ⟨row, hrow, rfl, hstatus⟩ := h
  obtain ⟨owner, howner, hid⟩ := lawful.settled.payment_order row hrow
  obtain ⟨purchase, rfl, hpurchase⟩ := Purchase.StoredIn.exists_of_mem lawful howner
  change purchase.order.id = row.orderId at hid
  have hrefunded : purchase.IsRefunded :=
    (hpurchase.hasRefunded_iff lawful).mp ⟨row, hrow, hid.symm, hstatus⟩
  obtain ⟨next, hnext, hmove⟩ :
      purchase.MovesIn step.clock (step.run currency store).store.tables :=
    hpurchase.movesIn_step served lawful
  have hlater := (hnext.hasRefunded_iff hlawful).mpr (hmove.isRefunded hrefunded)
  rw [hmove.id_eq, hid] at hlater
  exact hlater

section Runs

variable {currency : String} {start : Store} {steps : List Step} {id : OrderId}

theorem RefundClosed.hasRefunded (served : ∀ step ∈ steps, step.IsServed)
    (lawful : start.tables.Lawful) (h : RefundClosed currency start steps id) :
    (storeAfter currency steps start).HasRefunded id := by
  induction steps, served using served_induction with
  | nil =>
    obtain ⟨before, step, after, hsplit, -⟩ := h
    simp at hsplit
  | snoc steps step hearlier hlast ih =>
    have hlawful : (storeAfter currency steps start).tables.Lawful :=
      lawful_storeAfter hearlier lawful
    have hbefore : (storeAfter currency steps start).HasRefunded id := by
      rcases RefundClosed.snoc_iff.mp h with hclosed | hcloses
      · exact ih hclosed
      · exact hcloses.1
    rw [storeAfter_snoc]
    exact Step.hasRefunded currency hlast hlawful hbefore

/-- An order says of its refunded payment that it is refunded unless a step has closed the order
since the refund. -/
theorem Purchase.StoredIn.refunded_iff (served : ∀ step ∈ steps, step.IsServed)
    (orders : start.tables.orders = []) (items : start.tables.orderItems = [])
    (payments : start.tables.payments = []) {purchase : Purchase}
    (h : purchase.StoredIn (storeAfter currency steps start).tables)
    (refunded : purchase.IsRefunded) :
    purchase.order.paymentStatus = .refunded ↔
      ¬RefundClosed currency start steps purchase.order.id := by
  induction steps, served using served_induction generalizing purchase with
  | nil => exact absurd orders h.orders_ne_nil
  | snoc steps step hearlier hlast ih =>
    have hempty : start.tables.Lawful := .of_empty orders items payments
    have hlawful : (storeAfter currency steps start).tables.Lawful :=
      lawful_storeAfter hearlier hempty
    rw [storeAfter_snoc] at h
    rcases h.origin_step hlast hlawful with hplaced | ⟨before, hbefore, hmove⟩
    · obtain ⟨payment, hfound, -⟩ := refunded
      simp [hplaced.no_payment] at hfound
    · have hcloses := Purchase.StoredIn.closesRefunded_iff hlast hbefore hlawful h hmove.id_eq
      rw [RefundClosed.snoc_iff, hmove.id_eq, hcloses, not_or]
      by_cases hrefunded : before.IsRefunded
      · rw [hmove.refunded_iff hrefunded, ih hbefore hrefunded]
        simp [hrefunded]
      · -- The refund is this step's own, so the order is marked and nothing has closed it since.
        have hmarked := hmove.marked_of_refund hrefunded refunded
        refine iff_of_true hmarked ⟨fun hclosed => hrefunded ?_, fun hclosed => hrefunded hclosed.1⟩
        exact (hbefore.hasRefunded_iff hlawful).mp (hclosed.hasRefunded hearlier hempty)

end Runs

/-- Wherever a run that began without orders has come to, an order with a refunded payment says that
it is refunded if and only if no step has delivered or cancelled the order since the refund. -/
theorem refund_visible_iff (currency : String) (steps : List Step) (start : Store)
    (served : ∀ step ∈ steps, step.IsServed) (orders : start.tables.orders = [])
    (items : start.tables.orderItems = []) (payments : start.tables.payments = []) :
    ∀ order ∈ (storeAfter currency steps start).tables.orders,
      ∀ payment ∈ (storeAfter currency steps start).tables.payments,
        payment.orderId = order.id → payment.status = word PaymentStatus.refunded →
          (order.paymentStatus = word PaymentStatus.refunded ↔
            ¬RefundClosed currency start steps order.id) := by
  intro row hrow payment hpayment howner hstatus
  have hlawful : (storeAfter currency steps start).tables.Lawful :=
    lawful_storeAfter served (.of_empty orders items payments)
  obtain ⟨purchase, rfl, hpurchase⟩ := Purchase.StoredIn.exists_of_mem hlawful hrow
  have hrefunded : purchase.IsRefunded :=
    (hpurchase.hasRefunded_iff hlawful).mp ⟨payment, hpayment, howner, hstatus⟩
  have hvisible := hpurchase.refunded_iff served orders items payments hrefunded
  exact PaymentStatus.word_inj.trans hvisible

/-- A purchase that is paid for and refunded. -/
def Step.refundedEarly : List Step :=
  [ofCall (.placeDirect 7 6 .razorpay [⟨3, 2⟩]), ofCall (.createIntent 7 1 .razorpay),
    ofCall (.confirmPayment "razorpay_order_00000000000040008000000000000001" "success"),
    ofCall (.refundPayment 1)]

theorem refund_visible_refundedEarly :
    (storeAfter "INR" Step.refundedEarly .stocked).tables.payments.map (·.status) = ["refunded"] ∧
      ∀ order ∈ (storeAfter "INR" Step.refundedEarly .stocked).tables.orders,
        ∀ payment ∈ (storeAfter "INR" Step.refundedEarly .stocked).tables.payments,
          payment.orderId = order.id → payment.status = word PaymentStatus.refunded →
            (order.paymentStatus = word PaymentStatus.refunded ↔
              ¬RefundClosed "INR" .stocked Step.refundedEarly order.id) := by
  have hserved : ∀ step ∈ Step.refundedEarly, step.IsServed := by
    simp [Step.refundedEarly, Step.isServed_ofCall]
  refine ⟨by decide +kernel, fun order horder payment hpayment howner hstatus => ?_⟩
  exact refund_visible_iff "INR" Step.refundedEarly .stocked hserved rfl rfl rfl order horder
    payment
    hpayment howner hstatus

/-- A cancellation after the refund takes the mark off the order. -/
theorem refund_hidden :
    ¬(∀ order ∈ (storeAfter "INR" (Step.refundedEarly ++ [Step.ofCall (.cancelOrder 7 1)])
        .stocked).tables.orders,
      ∀ payment ∈ (storeAfter "INR" (Step.refundedEarly ++ [Step.ofCall (.cancelOrder 7 1)])
          .stocked).tables.payments,
        payment.orderId = order.id → payment.status = word PaymentStatus.refunded →
          order.paymentStatus = word PaymentStatus.refunded) := by
  decide +kernel

/-- A delivery after the refund marks the order as paid again. -/
example : (storeAfter "INR" [.ofCall (.placeDirect 7 6 .razorpay [⟨3, 2⟩]),
    .ofCall (.createIntent 7 1 .razorpay),
    .ofCall (.confirmPayment "razorpay_order_00000000000040008000000000000001" "success"),
    .ofCall (.refundPayment 1), .ofCall (.updateOrderStatus 1 .delivered)]
      .stocked).tables.orders.map (·.paymentStatus) = ["paid"] := by
  decide +kernel

end Storefront
