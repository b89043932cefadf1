import Mathlib.Logic.Relation
import Storefront.Proofs.Payment.CancelledOrders
import Storefront.Proofs.Purchase.Moves

/-!
Purchases over a run. Every effect of an operation makes a move of each purchase in the store, and a
purchase that was not there before is as a checkout leaves it. Hence what holds of purchases just
placed, and is kept by every move, holds of all purchases wherever a run has come to.
-/

namespace Storefront

/-- The tables hold what became of the purchase in one step. -/
def Purchase.MovesIn (clock : Clock) (purchase : Purchase) (t' : Tables) : Prop :=
  ∃ next : Purchase, next.StoredIn t' ∧ purchase.Move clock next

/-- One purchase becomes the other, move by move. -/
def Purchase.Evolves : Purchase → Purchase → Prop :=
  Relation.ReflTransGen fun purchase next => ∃ clock, purchase.Move clock next

namespace OrderStatus

/-- An order that is neither on its way to its user nor closed can still be cancelled. -/
theorem canBecome_cancelled {status : OrderStatus} :
    status.canBecome .cancelled ↔
      status ≠ .shipped ∧ status ≠ .delivered ∧ status ≠ .cancelled := by
  cases status <;> decide

end OrderStatus

namespace Order

variable {order : Order} {payment : Option Payment}

theorem openTotal_eq_zero {items : List OrderItem} (h : ∀ item ∈ items, item.status = .cancelled) :
    openTotal items = 0 := by
  have hnone : items.filter (fun item => item.status ≠ .cancelled) = [] := by
    apply List.filter_eq_nil_iff.mpr
    intro item hitem
    simp [h item hitem]
  rw [openTotal, hnone]
  rfl

/-! All ways to cancel an order settle its payment alike, unless a refund is left for later. -/

theorem lessItem_of_allCancelled {items : List OrderItem} (h : allCancelled items) :
    order.lessItem items payment = order.cancelled.settledOnCancel payment := by
  have hcancelled : ∀ item ∈ items, item.status = .cancelled := by
    simp only [allCancelled, Bool.and_eq_true, List.all_eq_true, decide_eq_true_eq] at h
    exact h.2
  rw [lessItem, if_pos h, openTotal_eq_zero hcancelled]
  rfl

theorem calledOff_of_not_refundDue (h : ¬order.refundDue payment) :
    order.calledOff payment = order.cancelled.settledOnCancel payment := by
  have hundue : ¬order.cancelled.refundDue payment := h
  rw [calledOff, if_neg h, settledOnCancel, if_neg hundue]
  rfl

theorem moved_cancelled (order : Order) (now : Instant) (payment : Option Payment) :
    order.moved .cancelled now payment = order.cancelled.settledOnCancel payment := by
  have hsame : refundDue { order with finalTotal := 0 } payment =
      order.cancelled.refundDue payment := rfl
  simp only [moved, settledOnCancel, hsame]
  split <;> rfl

end Order

namespace Purchase

variable {clock : Clock} {t t' : Tables} {purchase next : Purchase}

/-- The order of a purchase stays the same order. -/
theorem Move.id_eq (h : purchase.Move clock next) : next.order.id = purchase.order.id := by
  cases h <;> rfl

/-- A cancellation that settles the payment refunds it or calls it off. -/
theorem Move.of_settledOnCancel {items : List OrderItem} (lawful' : t'.Lawful)
    (cancellable : purchase.order.status.canBecome .cancelled)
    (withdrawn : List.Forall₂ (OrderItem.Move clock) purchase.items items)
    (stored : (amend clock.store (purchase.order.cancelled.settledOnCancel purchase.payment)
      { purchase with items }).StoredIn t') :
    purchase.Move clock (amend clock.store
      (purchase.order.cancelled.settledOnCancel purchase.payment) { purchase with items }) := by
  have emptied : ∀ item ∈ items, item.status = .cancelled :=
    (stored.cancelled_iff lawful').mp
      (Order.status_settledOnCancel purchase.order.cancelled purchase.payment)
  by_cases hdue : purchase.order.cancelled.refundDue purchase.payment
  · obtain ⟨-, paid, hpaid, hstatus⟩ := Order.exists_paid_of_refundDue hdue
    rw [Order.settledOnCancel, if_pos hdue, hpaid]
    exact .cancelledPaid cancellable withdrawn emptied hpaid hstatus
  · have hmove := Move.cancelledUnpaid cancellable withdrawn emptied hdue
    rw [← Payment.calledOff_or clock.store] at hmove
    rw [Order.settledOnCancel, if_neg hdue]
    exact hmove

namespace StoredIn

variable {order : Order} {items : List OrderItem} {change : Order × Option Payment}
  {payment : Option Payment}

/-- Nothing became of the purchase. -/
theorem stays (h : purchase.StoredIn t') : purchase.MovesIn clock t' :=
  ⟨purchase, h, .kept⟩

/-- An order comes to the sum of its items that are not cancelled. -/
theorem finalTotal_eq (h : purchase.StoredIn t) (lawful : t.Lawful) :
    purchase.order.finalTotal = Order.openTotal purchase.items := by
  have htotal := (lawful.totalled purchase.order.row h.order_mem).total_eq
  have hid : purchase.order.row.id = purchase.order.id := rfl
  rw [hid, h.items_eq, ItemRow.openTotal_map_row] at htotal
  exact htotal

/-- What an amendment of an order makes of the purchases, by what it makes of that order's. -/
theorem movesIn_amended (h : purchase.StoredIn t) (lawful : t.Lawful)
    (amended : Order.Amended clock t order items change t')
    (follows : Payment.FollowsIn order.id t.payments change.2)
    (own : order = purchase.order → ∀ withdrawn : List OrderItem,
      List.Forall₂ (OrderItem.Move clock) purchase.items withdrawn →
      (amend clock.store change { purchase with items := withdrawn }).StoredIn t' →
      purchase.Move clock (amend clock.store change { purchase with items := withdrawn })) :
    purchase.MovesIn clock t' := by
  by_cases hid : purchase.order.id = order.id
  · have hfound := amended.order_found
    rw [← hid] at hfound
    have horder := h.order_eq hfound
    obtain ⟨reason, hstored⟩ := h.amended amended follows hid
    have hwithdrawn := h.withdrawn lawful amended reason
    exact ⟨_, hstored, own horder _ hwithdrawn hstored⟩
  · exact (h.of_amended_ne lawful amended follows hid).stays

theorem movesIn_amended_quietly (h : purchase.StoredIn t) (lawful : t.Lawful)
    (amended : Order.Amended clock t order [] change t')
    (follows : Payment.FollowsIn order.id t.payments change.2)
    (own : order = purchase.order → purchase.Move clock (purchase.amend clock.store change)) :
    purchase.MovesIn clock t' := by
  by_cases hid : purchase.order.id = order.id
  · have hfound := amended.order_found
    rw [← hid] at hfound
    have horder := h.order_eq hfound
    exact ⟨_, h.amended_quietly amended follows hid, own horder⟩
  · exact (h.of_amended_ne lawful amended follows hid).stays

/-- A payment that is written back without its order leaves orders and items as they are. -/
theorem movesIn_written {written : Payment} (h : purchase.StoredIn t) (lawful : t.Lawful)
    {id : OrderId} (follows : Payment.FollowsIn id t.payments (some written))
    (own : purchase.order.id = id → purchase.Move clock
      { purchase with payment := some (written.stamp clock.store) })
    (changed : t' = { t with payments := Payment.writeTo clock.store (some written) t.payments }) :
    purchase.MovesIn clock t' := by
  subst changed
  by_cases hid : purchase.order.id = id
  · refine ⟨{ purchase with payment := some (written.stamp clock.store) }, ?_, own hid⟩
    rw [← hid] at follows
    refine ⟨h.order_found, h.items_eq, ?_⟩
    exact h.payments_written follows clock.store
  · apply stays
    refine ⟨h.order_found, h.items_eq, ?_⟩
    exact (Payment.filter_writeTo lawful.settled.sound follows hid).trans h.payments_eq

/-! What each operation makes of the purchases. -/

theorem movesIn_placed {user : UserId} {addressId : AddressId} {method : PaymentMethod}
    {source : Order.Source} {store : Store} {address : Address} {cart : Option CartId}
    {requests : List LineRequest} {lines : List PricedLine} (h : purchase.StoredIn store.tables)
    (placed : Order.Placed clock user addressId method source store address cart requests lines
      order t') : purchase.MovesIn clock t' := by
  apply stays
  constructor
  · rw [placed.orders_eq, List.find?_append, h.order_found]
    rfl
  · have hitems := placed.ofOrder_of_mem h.order_mem
    have hid : purchase.order.row.id = purchase.order.id := rfl
    rw [hid] at hitems
    rw [hitems]
    exact h.items_eq
  · rw [placed.payments_eq]
    exact h.payments_eq

theorem movesIn_itemCancelled {user : UserId} {id : OrderId} {itemId : ItemId} {reason : String}
    {item : OrderItem} (h : purchase.StoredIn t) (lawful : t.Lawful) (lawful' : t'.Lawful)
    (cancelled : Order.ItemCancelled clock user id itemId reason t order item items payment t') :
    purchase.MovesIn clock t' := by
  have hamended := cancelled.amended
  have hfollows := (cancelled.accounted lawful.settled).1
  apply h.movesIn_amended lawful hamended hfollows
  rintro rfl withdrawn hwithdrawn hstored
  have hitem := hamended.items_open.stored item List.mem_cons_self
  have howner := hamended.items_own item List.mem_cons_self
  have hopen : purchase.order.status ≠ .cancelled := by
    intro hcancelled
    exact lawful.totalled.not_cancelled h.order_mem hitem howner cancelled.item_open hcancelled
  have hcancellable : purchase.order.status.canBecome .cancelled :=
    OrderStatus.canBecome_cancelled.mpr ⟨cancelled.not_shipped, cancelled.not_delivered, hopen⟩
  by_cases hall : Order.allCancelled items
  · obtain rfl := h.payment_eq_of_found cancelled.order_found (cancelled.payment_found hall)
    rw [Order.lessItem_of_allCancelled hall] at hstored ⊢
    exact .of_settledOnCancel lawful' hcancellable hwithdrawn hstored
  · have htotal := hstored.finalTotal_eq lawful'
    have hleft := hstored.cancelled_iff lawful'
    rw [Order.lessItem, if_neg hall] at htotal hleft ⊢
    have hsome : ¬∀ item ∈ withdrawn, item.status = .cancelled :=
      fun hnone => hopen (hleft.mpr hnone)
    push Not at hsome
    change Order.openTotal items = Order.openTotal withdrawn at htotal
    rw [htotal]
    exact .lessened hcancellable hwithdrawn hsome

theorem movesIn_orderCancelled {user : UserId} {id : OrderId} (h : purchase.StoredIn t)
    (lawful : t.Lawful) (lawful' : t'.Lawful)
    (cancelled : Order.CalledOff clock user id t order items payment t')
    (settled : ¬order.refundDue payment) : purchase.MovesIn clock t' := by
  have hamended := cancelled.amended lawful.coherent
  have hfollows := (cancelled.accounted lawful.coherent lawful.settled settled).1
  apply h.movesIn_amended lawful hamended hfollows
  rintro rfl withdrawn hwithdrawn hstored
  obtain rfl := h.payment_eq_of_found cancelled.order_found cancelled.payment_found
  have hcancellable : purchase.order.status.canBecome .cancelled := by
    rw [cancelled.pending]
    rfl
  rw [Order.calledOff_of_not_refundDue settled] at hstored ⊢
  exact .of_settledOnCancel lawful' hcancellable hwithdrawn hstored

/-- A cancellation and the refund that follows it are one move. -/
theorem movesIn_orderRefunded {user : UserId} {id : OrderId} {found : Order} {paid : Payment}
    {stored : PaymentRow} {t'' : Tables} (h : purchase.StoredIn t) (lawful : t.Lawful)
    (lawful'' : t''.Lawful)
    (cancelled : Order.CalledOff clock user id t order items payment t')
    (due : order.refundDue payment) (refund : Payment.Refunded clock id t' found paid stored t'') :
    purchase.MovesIn clock t'' := by
  have hamended := cancelled.amended lawful.coherent
  have hfollows := Order.CalledOff.followsIn (t := t) due
  have lawful' : t'.Lawful := by
    constructor
    · exact lawful.coherent.amended hamended
    · exact lawful.totalled.calledOff lawful.coherent cancelled
    · exact cancelled.settled_of_refundDue lawful.coherent lawful.settled due
  obtain ⟨hrefunded, -⟩ := refund.accounted lawful'.settled
  have hid : order.id = id := Order.id_of_found cancelled.order_found
  have hid' : found.id = id := Order.id_of_found refund.order_found
  by_cases own : purchase.order.id = id
  · have hfound := cancelled.order_found
    have hpayment := cancelled.payment_found
    rw [← own] at hfound hpayment
    obtain rfl := h.order_eq hfound
    obtain rfl := h.payment_eq hpayment
    have hcancellable : purchase.order.status.canBecome .cancelled := by
      rw [cancelled.pending]
      rfl
    obtain ⟨reason, hmiddle⟩ := h.amended hamended hfollows rfl
    have hwithdrawn := h.withdrawn lawful hamended reason
    rw [Order.calledOff, if_pos due] at hmiddle
    have hlast := hmiddle.amended_quietly refund.amended hrefunded (own.trans hid'.symm)
    have hempty := (hlast.cancelled_iff lawful'').mp
    -- The refund finds the order as the cancellation has left it, and the payment untouched.
    have hfound' := refund.order_found
    have hpaid := refund.payment_found
    rw [← own] at hfound' hpaid
    obtain rfl := hmiddle.order_eq hfound'
    have hsame : some paid = purchase.payment := hmiddle.payment_eq hpaid
    exact ⟨_, hlast, .cancelledPaid hcancellable hwithdrawn (hempty rfl) hsame.symm refund.paid⟩
  · have hmiddle := h.of_amended_ne lawful hamended hfollows (hid ▸ own)
    exact (hmiddle.of_amended_ne lawful' refund.amended hrefunded (hid' ▸ own)).stays

theorem movesIn_refundFailed {user : UserId} {id : OrderId} (h : purchase.StoredIn t)
    (lawful : t.Lawful) (lawful' : t'.Lawful)
    (cancelled : Order.CalledOff clock user id t order items payment t')
    (due : order.refundDue payment) : purchase.MovesIn clock t' := by
  have hamended := cancelled.amended lawful.coherent
  apply h.movesIn_amended lawful hamended (Order.CalledOff.followsIn due)
  rintro rfl withdrawn hwithdrawn hstored
  obtain rfl := h.payment_eq_of_found cancelled.order_found cancelled.payment_found
  have hempty := hstored.cancelled_iff lawful'
  rw [Order.calledOff, if_pos due] at hempty ⊢
  exact .refundMissed cancelled.pending due hwithdrawn (hempty.mp rfl)

theorem movesIn_moved {id : OrderId} {status : OrderStatus} (h : purchase.StoredIn t)
    (lawful : t.Lawful) (lawful' : t'.Lawful)
    (moved : Order.Moved clock id status t order items payment t') :
    purchase.MovesIn clock t' := by
  have hamended := moved.amended lawful.coherent
  have hfollows := (moved.accounted lawful.coherent lawful.settled).1
  have hallowed := moved.allowed
  have hpayment (own : order = purchase.order) : payment = purchase.payment := by
    subst own
    exact h.payment_eq_of_found moved.order_found moved.payment_found
  cases status with
  | cancelled =>
    apply h.movesIn_amended lawful hamended hfollows
    intro own withdrawn hwithdrawn hstored
    obtain rfl := hpayment own
    subst own
    rw [Order.moved_cancelled] at hstored ⊢
    exact .of_settledOnCancel lawful' hallowed hwithdrawn hstored
  | delivered =>
    apply h.movesIn_amended_quietly lawful hamended hfollows
    intro own
    obtain rfl := hpayment own
    subst own
    have hmove : purchase.Move clock _ := .delivered hallowed
    rw [← Payment.paidOnDelivery_or clock.store] at hmove
    exact hmove
  | _ =>
    apply h.movesIn_amended_quietly lawful hamended hfollows
    rintro rfl
    exact .advanced hallowed (by decide) (by decide)

theorem movesIn_opened {currency : String} {user : UserId} {id : OrderId}
    {method : PaymentMethod} {number : Nat} {opened : Payment} (h : purchase.StoredIn t)
    (intent : Payment.Opened clock currency user id method number t order opened t') :
    purchase.MovesIn clock t' := by
  have howner : opened.row.orderId = id := by
    rw [intent.payment_eq]
    rfl
  have hrows : t'.payments = t.payments ++ [opened.row] := by
    rw [intent.changed]
  have horders : t'.orders = t.orders := by
    rw [intent.changed]
  have hitems : t'.orderItems = t.orderItems := by
    rw [intent.changed]
  by_cases own : purchase.order.id = id
  · have hfound := intent.order_found
    have hunpaid := intent.unpaid
    rw [← own] at hfound hunpaid
    obtain rfl := h.order_eq hfound
    have hnone : t.payments.filter (fun row => row.orderId = purchase.order.id) = [] := by
      apply List.filter_eq_nil_iff.mpr
      intro row hrow
      simp [hunpaid row hrow]
    have hpayment : purchase.payment = none := by
      rw [h.payments_eq] at hnone
      simpa using hnone
    have hmove : purchase.Move clock { purchase with
        payment := some (Payment.opened clock currency (Uuid.numbered number) purchase.order.id
          purchase.order.finalTotal method (gatewayReference method (Uuid.numbered number))) } :=
      .intentCreated intent.pending hpayment
    rw [own, ← intent.payment_eq] at hmove
    refine ⟨_, ⟨?_, ?_, ?_⟩, hmove⟩
    · rw [horders]
      exact h.order_found
    · rw [hitems]
      exact h.items_eq
    · rw [hrows, List.filter_append, hnone]
      simp [howner, own]
  · have hother : [opened.row].filter (fun row => row.orderId = purchase.order.id) = [] := by
      simp [howner, Ne.symm own]
    apply stays
    constructor
    · rw [horders]
      exact h.order_found
    · rw [hitems]
      exact h.items_eq
    · rw [hrows, List.filter_append, hother, List.append_nil]
      exact h.payments_eq

theorem movesIn_calledBack {reference reported : String} {found called : Payment}
    {confirmation : Payment.Confirmation} (h : purchase.StoredIn t) (lawful : t.Lawful)
    (callback : Payment.CalledBack clock reference reported t order found called confirmation t')
    (changes : confirmation ≠ .alreadyPaid) : purchase.MovesIn clock t' := by
  obtain ⟨rfl, hstored, howner, honline⟩ := callback.payment_eq lawful.settled
  obtain ⟨hopen, hunsettled⟩ := Payment.of_decideConfirmation callback.decided changes
  have hpayment (own : purchase.order.id = order.id) : purchase.payment = some called :=
    h.mem_payments.mpr ⟨hstored, howner.trans own.symm⟩
  cases confirmation with
  | alreadyPaid => exact absurd rfl changes
  | paid =>
    apply h.movesIn_amended_quietly lawful callback.amended (callback.accounted lawful.settled).1
    rintro rfl
    exact .confirmed (hpayment rfl) hopen hunsettled honline
  | failed =>
    obtain ⟨hfollows, -, hchanged⟩ := callback.failed_eq lawful.settled
    refine h.movesIn_written lawful hfollows (fun own => ?_) hchanged
    have hfound := callback.order_found
    rw [← Order.id_of_found hfound, ← own] at hfound
    obtain rfl := h.order_eq hfound
    exact .failed (hpayment own) hopen hunsettled

theorem movesIn_refunded {id : OrderId} {paid : Payment} {stored : PaymentRow}
    (h : purchase.StoredIn t) (lawful : t.Lawful)
    (refund : Payment.Refunded clock id t order paid stored t') : purchase.MovesIn clock t' := by
  apply h.movesIn_amended_quietly lawful refund.amended (refund.accounted lawful.settled).1
  rintro rfl
  have hfound : some paid = purchase.payment :=
    h.payment_eq_of_found refund.order_found refund.payment_found
  exact .refunded hfound.symm refund.paid

/-- Every effect of an operation makes a move of each purchase in the store. -/
theorem movesIn_effect {context : Context} {fault : Option Fault} {store : Store}
    {operation : Operation} {events : List Event} (h : purchase.StoredIn store.tables)
    (lawful : store.tables.Lawful) (heffect : operation.Effect context fault store events t') :
    purchase.MovesIn context.clock t' := by
  have lawful' : t'.Lawful := lawful.effect heffect
  cases heffect with
  | placed asked hasLines placed => exact h.movesIn_placed placed
  | itemCancelled cancelled => exact h.movesIn_itemCancelled lawful lawful' cancelled
  | orderCancelled cancelled answered settled =>
    apply h.movesIn_orderCancelled lawful lawful' cancelled
    simp [settled]
  | orderRefunded cancelled answered due refund =>
    exact h.movesIn_orderRefunded lawful lawful' cancelled due refund
  | refundFailed cancelled answered due =>
    exact h.movesIn_refundFailed lawful lawful' cancelled due
  | statusChanged moved => exact h.movesIn_moved lawful lawful' moved
  | intentCreated opened => exact h.movesIn_opened opened
  | paymentConfirmed called changes => exact h.movesIn_calledBack lawful called changes
  | refunded refund => exact h.movesIn_refunded lawful refund
  | cartCreated created =>
    rw [created.changed]
    exact stays (h.congr rfl rfl rfl)
  | cartReplaced untouched =>
    rw [untouched]
    exact stays (h.congr rfl rfl rfl)
  | productRevised found natural changed =>
    rw [changed]
    exact stays (h.congr rfl rfl rfl)

end StoredIn

/-- A purchase of which there was no order before is as a checkout leaves it. -/
theorem StoredIn.isPlaced {user : UserId} {addressId : AddressId} {method : PaymentMethod}
    {source : Order.Source} {store : Store} {address : Address} {cart : Option CartId}
    {requests : List LineRequest} {lines : List PricedLine} {order : Order}
    (h : purchase.StoredIn t') (lawful : store.tables.Lawful)
    (placed : Order.Placed clock user addressId method source store address cart requests lines
      order t') (new : ∀ row ∈ store.tables.orders, row.id ≠ purchase.order.id) :
    purchase.IsPlaced := by
  have horder : purchase.order = order := by
    have hmem := h.order_mem
    rw [placed.orders_eq, List.mem_append, List.mem_singleton] at hmem
    rcases hmem with hold | hnew
    · exact absurd rfl (new _ hold)
    · exact Order.row_injective hnew
  have hitems : purchase.items = Order.Placed.itemsOf clock store order lines := by
    have hrows := h.items_eq
    rw [horder, placed.ofOrder_self lawful.coherent] at hrows
    exact (List.map_injective_iff.mpr OrderItem.row_injective hrows).symm
  have hline {item : OrderItem} (hitem : item ∈ purchase.items) :
      ∃ line, item = OrderItem.ofLine order.id clock.store item.id line := by
    rw [hitems] at hitem
    obtain ⟨line, -, heq⟩ := OrderItem.exists_line_of_mem hitem
    exact ⟨line, heq⟩
  constructor
  · rw [horder, placed.order_eq]
    rfl
  · rw [horder, placed.order_eq]
    rfl
  · rw [horder, placed.order_eq]
    rfl
  · rw [Option.eq_none_iff_forall_ne_some]
    intro payment hpayment
    obtain ⟨hstored, howner⟩ := h.mem_payments.mp hpayment
    rw [placed.payments_eq] at hstored
    obtain ⟨owner, hmem, hid⟩ := lawful.settled.payment_order payment.row hstored
    exact new owner hmem (hid.trans howner)
  · intro item hitem
    obtain ⟨line, heq⟩ := hline hitem
    rw [heq]
    rfl
  · intro item hitem
    obtain ⟨line, heq⟩ := hline hitem
    rw [heq]
    exact ⟨rfl, rfl⟩

end Purchase

/-- Only a checkout adds orders, and none is ever removed. -/
theorem Operation.Effect.orderIds_eq {context : Context} {fault : Option Fault} {store : Store}
    {operation : Operation} {events : List Event} {t' : Tables} (lawful : store.tables.Lawful)
    (h : operation.Effect context fault store events t') (hop : operation.checkout? = none) :
    t'.orders.map (·.id) = store.tables.orders.map (·.id) := by
  cases h with
  | placed asked => simp [hop] at asked
  | itemCancelled cancelled => exact cancelled.amended.orderIds_eq
  | orderCancelled cancelled => exact (cancelled.amended lawful.coherent).orderIds_eq
  | orderRefunded cancelled answered due refund =>
    exact refund.amended.orderIds_eq.trans (cancelled.amended lawful.coherent).orderIds_eq
  | refundFailed cancelled => exact (cancelled.amended lawful.coherent).orderIds_eq
  | statusChanged moved => exact (moved.amended lawful.coherent).orderIds_eq
  | intentCreated opened => rw [opened.changed]
  | @paymentConfirmed _ _ _ _ _ confirmation _ called changes =>
    cases confirmation with
    | alreadyPaid => exact absurd rfl changes
    | paid => exact called.amended.orderIds_eq
    | failed => rw [called.changed, Payment.callBack]
  | refunded refund => exact refund.amended.orderIds_eq
  | cartCreated created => rw [created.changed]
  | cartReplaced untouched => rw [untouched]
  | productRevised found natural changed => rw [changed]

/-- A purchase found after an effect was placed by it, or it was there before and made a move. -/
theorem Purchase.StoredIn.origin_effect {context : Context} {fault : Option Fault} {store : Store}
    {operation : Operation} {events : List Event} {t' : Tables} {next : Purchase}
    (h : next.StoredIn t') (lawful : store.tables.Lawful)
    (heffect : operation.Effect context fault store events t') :
    next.IsPlaced ∨
      ∃ purchase : Purchase, purchase.StoredIn store.tables ∧ purchase.Move context.clock next := by
  by_cases hold : ∃ row ∈ store.tables.orders, row.id = next.order.id
  · right
    obtain ⟨row, hrow, hid⟩ := hold
    obtain ⟨purchase, rfl, hpurchase⟩ := exists_of_mem lawful hrow
    obtain ⟨later, hlater, hmove⟩ := hpurchase.movesIn_effect lawful heffect
    obtain rfl := h.eq_of_id_eq hlater (hmove.id_eq.trans hid)
    exact ⟨purchase, hpurchase, hmove⟩
  · left
    push Not at hold
    cases hop : operation.checkout? with
    | none =>
      have hids := heffect.orderIds_eq lawful hop
      have hmem : next.order.id ∈ t'.orders.map (·.id) := List.mem_map_of_mem h.order_mem
      rw [hids] at hmem
      obtain ⟨row, hrow, hid⟩ := List.mem_map.mp hmem
      exact absurd hid (hold row hrow)
    | some asked =>
      cases heffect with
      | placed asked hasLines placed => exact h.isPlaced lawful placed hold
      | _ => cases hop

section Steps

variable {currency : String} {step : Step} {store : Store} {purchase next : Purchase}

theorem Step.lawful (served : step.IsServed) (lawful : store.tables.Lawful) :
    (step.run currency store).store.tables.Lawful := by
  apply step.keeps currency served lawful
  intro operation events t' hop heffect
  exact lawful.effect heffect

/-- A step makes a move of each purchase in the store. -/
theorem Purchase.StoredIn.movesIn_step (served : step.IsServed) (lawful : store.tables.Lawful)
    (h : purchase.StoredIn store.tables) :
    purchase.MovesIn step.clock (step.run currency store).store.tables := by
  apply step.keeps currency served h.stays
  intro operation events t' hop heffect
  exact h.movesIn_effect lawful heffect

/-- A purchase found after a step was placed by it, or it was there before and made a move. -/
theorem Purchase.StoredIn.origin_step (served : step.IsServed) (lawful : store.tables.Lawful)
    (h : next.StoredIn (step.run currency store).store.tables) :
    next.IsPlaced ∨
      ∃ purchase : Purchase, purchase.StoredIn store.tables ∧ purchase.Move step.clock next := by
  rcases step.run_effect currency store served with ⟨hsame, -⟩ | ⟨operation, hop, heffect⟩
  · rw [hsame] at h
    exact .inr ⟨next, h, .kept⟩
  · exact h.origin_effect lawful heffect

end Steps

section Runs

variable {currency : String} {steps : List Step} {start : Store} {purchase : Purchase}

theorem storeAfter_append (currency : String) (before after : List Step) (start : Store) :
    storeAfter currency (before ++ after) start =
      storeAfter currency after (storeAfter currency before start) :=
  List.foldl_append

theorem lawful_storeAfter (served : ∀ step ∈ steps, step.IsServed) (lawful : start.tables.Lawful) :
    (storeAfter currency steps start).tables.Lawful := by
  refine storeAfter_induction (I := fun store => store.tables.Lawful) lawful ?_
  intro step hstep store hstore
  exact Step.lawful (served step hstep) hstore

/-- A purchase in the store evolves over a run. -/
theorem Purchase.StoredIn.evolves (served : ∀ step ∈ steps, step.IsServed)
    (lawful : start.tables.Lawful) (h : purchase.StoredIn start.tables) :
    ∃ next : Purchase,
      next.StoredIn (storeAfter currency steps start).tables ∧ purchase.Evolves next := by
  have hrun : (storeAfter currency steps start).tables.Lawful ∧ ∃ next : Purchase,
      next.StoredIn (storeAfter currency steps start).tables ∧ purchase.Evolves next := by
    refine storeAfter_induction (I := fun store => store.tables.Lawful ∧
      ∃ next : Purchase, next.StoredIn store.tables ∧ purchase.Evolves next)
      ⟨lawful, purchase, h, .refl⟩ ?_
    rintro step hstep store ⟨hstore, next, hnext, hevolves⟩
    have hserved := served step hstep
    obtain ⟨later, hlater, hmove⟩ :
        next.MovesIn step.clock (step.run currency store).store.tables :=
      hnext.movesIn_step hserved hstore
    exact ⟨Step.lawful hserved hstore, later, hlater, hevolves.tail ⟨step.clock, hmove⟩⟩
  exact hrun.2

/-- What holds of purchases just placed and is kept by every move holds of all purchases wherever a
run that began without orders has come to. -/
theorem Purchase.invariant_storeAfter {I : Purchase → Prop}
    (placed : ∀ purchase, IsPlaced purchase →
    I purchase) (move : ∀ clock purchase next, I purchase → Move clock purchase next → I next)
    (served : ∀ step ∈ steps, step.IsServed) (orders : start.tables.orders = [])
    (items : start.tables.orderItems = []) (payments : start.tables.payments = []) :
    ∀ purchase : Purchase, purchase.StoredIn (storeAfter currency steps start).tables →
      I purchase := by
  have hrun : (storeAfter currency steps start).tables.Lawful ∧
      ∀ purchase : Purchase, purchase.StoredIn (storeAfter currency steps start).tables →
        I purchase := by
    refine storeAfter_induction (I := fun store => store.tables.Lawful ∧
      ∀ purchase : Purchase, purchase.StoredIn store.tables → I purchase) ?_ ?_
    · exact ⟨.of_empty orders items payments,
        fun purchase hpurchase => absurd orders hpurchase.orders_ne_nil⟩
    · rintro step hstep store ⟨hstore, hinvariant⟩
      have hserved := served step hstep
      refine ⟨Step.lawful hserved hstore, fun next hnext => ?_⟩
      rcases hnext.origin_step hserved hstore with hplaced | ⟨purchase, hpurchase, hmove⟩
      · exact placed next hplaced
      · exact move step.clock purchase next (hinvariant purchase hpurchase) hmove
  exact hrun.2

end Runs
end Storefront
