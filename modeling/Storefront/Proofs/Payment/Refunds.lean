import Storefront.Proofs.Payment.Settlement

/-!
Money of cancelled orders. Every operation keeps payments in agreement with their orders. A payment
stays paid although its order is cancelled only where a user's cancellation announced that the
refund failed, which a fault alone can bring about, and only until the order is refunded.
-/

namespace Storefront

open Session

/-- A paid payment of a stored order is refunded if no statement fails. -/
theorem Payment.succeeds_refundForOrder {context : Context} {p : Progress} {order : Order}
    {payment : Payment} (calm : p.fault = none) (sound : PaymentRow.Sound p.tables.payments)
    (order_found : p.tables.orders.find? (fun row => row.id = order.id) = some order.row)
    (total_fits : fitsNumeric 12 order.finalTotal)
    (payment_found : FoundIn order.id (some payment) p.tables.payments)
    (paid : payment.status = .paid) : Succeeds (refundForOrder order.id) context p := by
  apply Succeeds.announced
  apply Succeeds.transaction
  refine Returns.bind (a := some order) ((Order.returns_find calm).mpr ⟨order_found, rfl⟩) ?_
  refine (returns_found.mpr ⟨rfl, rfl⟩).bind ?_
  refine Returns.bind (a := some payment) ((returns_findForOrder calm).mpr ⟨payment_found, rfl⟩) ?_
  refine (returns_found.mpr ⟨rfl, rfl⟩).bind ?_
  obtain ⟨saved, middle, hsave⟩ := succeeds_save calm sound payment_found .refunded
  refine (returns_refund.mpr ⟨paid, hsave⟩).bind ?_
  have hmark : Succeeds (Order.save { order with paymentStatus := .refunded }) context middle := by
    obtain ⟨row, -, -, -, rfl⟩ := (returns_save calm).mp hsave
    exact Order.succeeds_save calm order_found rfl total_fits
  obtain ⟨marked, last, hmark⟩ := hmark.discard
  exact hmark.bind (succeeds_pure saved)

namespace Order.CalledOff

variable {clock : Clock} {user : UserId} {id : OrderId} {t t' : Tables} {order : Order}
  {items : List OrderItem} {payment : Option Payment}

/-- Where a refund is due the payment is left to it. -/
theorem followsIn (h : order.refundDue payment) :
    Payment.FollowsIn order.id t.payments (order.calledOff payment).2 := by
  rw [calledOff, if_pos h]
  exact Payment.followsIn_none

theorem payments_of_refundDue (coherent : t.Coherent)
    (h : CalledOff clock user id t order items payment t') (due : order.refundDue payment) :
    t'.payments = t.payments := by
  rw [(h.amended coherent).payments_eq, calledOff, if_pos due]
  rfl

/-- A payment that a refund is due of agrees with its cancelled order. -/
theorem settled_of_refundDue (coherent : t.Coherent) (settled : t.Settled)
    (h : CalledOff clock user id t order items payment t') (due : order.refundDue payment) :
    t'.Settled := by
  have hpayments := h.payments_of_refundDue coherent due
  apply settled.amended coherent (h.amended coherent) (followsIn due)
  intro other hother howner
  obtain ⟨hmethod, paid, rfl, hpaid⟩ := exists_paid_of_refundDue due
  have hfound := h.payment_found
  rw [← id_of_found h.order_found] at hfound
  rw [hpayments] at hother
  have hsame := hfound.eq_of_mem settled.sound hother howner
  obtain rfl := Payment.row_injective (Option.some.inj hsame)
  rw [calledOff, if_pos due]
  refine ⟨fun _ _ => hmethod, fun _ => ?_⟩
  rw [hpaid]
  rfl

/-- A refund that is due and meets no fault succeeds. -/
theorem succeeds_refund {context : Context} {p : Progress} (calm : p.fault = none)
    (coherent : t.Coherent) (settled : t.Settled)
    (h : CalledOff clock user id t order items payment p.tables) (due : order.refundDue payment) :
    Succeeds (Payment.refundForOrder id) context p := by
  have hpayments := h.payments_of_refundDue coherent due
  have hstored := (h.amended coherent).found
  obtain ⟨-, paid, rfl, hpaid⟩ := exists_paid_of_refundDue due
  have hfound := h.payment_found
  obtain rfl := id_of_found h.order_found
  rw [← hpayments] at hfound
  have hid : ((order.calledOff (some paid)).1.stamp clock.store).id = order.id :=
    id_of_fixed (fixed_calledOff order (some paid))
  have hsound : PaymentRow.Sound p.tables.payments := by
    rw [hpayments]
    exact settled.sound
  have htotal : fitsNumeric 12 ((order.calledOff (some paid)).1.stamp clock.store).finalTotal := by
    rw [calledOff, if_pos due]
    rfl
  rw [← hid] at hstored hfound ⊢
  exact Payment.succeeds_refundForOrder calm hsound hstored htotal hfound hpaid

end Order.CalledOff

namespace Tables.Settled

variable {t' : Tables} {store : Store}

theorem placed {clock : Clock} {user : UserId} {addressId : AddressId} {method : PaymentMethod}
    {source : Order.Source} {address : Address} {cart : Option CartId}
    {requests : List LineRequest} {lines : List PricedLine} {order : Order}
    (settled : store.tables.Settled)
    (h : Order.Placed clock user addressId method source store address cart requests lines order
      t') : t'.Settled := by
  have horders := h.orders_eq
  constructor
  · rw [h.payments_eq]
    exact settled.sound
  · intro row hrow
    rw [h.payments_eq] at hrow
    obtain ⟨owner, howner, hid⟩ := settled.payment_order row hrow
    rw [horders]
    exact ⟨owner, List.mem_append_left _ howner, hid⟩
  · intro other payment hother hpayment howner
    rw [h.payments_eq] at hpayment
    rw [horders, List.mem_append, List.mem_singleton] at hother
    rcases hother with hother | hnew
    · exact settled.agree other payment hother hpayment howner
    · obtain rfl := Order.row_injective hnew
      obtain ⟨owner, hstored, hid⟩ := settled.payment_order payment.row hpayment
      exact absurd (hid.trans howner) (h.order_fresh owner hstored)

theorem opened {clock : Clock} {currency : String} {user : UserId} {id : OrderId}
    {method : PaymentMethod} {number : Nat} {t : Tables} {order : Order} {payment : Payment}
    (coherent : t.Coherent) (settled : t.Settled)
    (h : Payment.Opened clock currency user id method number t order payment t') : t'.Settled := by
  have horders : t'.orders = t.orders := by
    rw [h.changed]
  have hpayments : t'.payments = t.payments ++ [payment.row] := by
    rw [h.changed]
  have hstatus : payment.status = .pending := by
    rw [h.payment_eq]
    rfl
  have howner : payment.orderId = id := by
    rw [h.payment_eq]
    rfl
  obtain ⟨hstored, hid⟩ := mem_of_find?_key h.order_found
  constructor
  · exact settled.sound.opened h
  · intro row hrow
    rw [horders]
    rw [hpayments, List.mem_append, List.mem_singleton] at hrow
    rcases hrow with hrow | rfl
    · exact settled.payment_order row hrow
    · exact ⟨order.row, hstored, hid.trans howner.symm⟩
  · intro other paid hother hpaid hpaidOwner
    rw [horders] at hother
    rw [hpayments, List.mem_append, List.mem_singleton] at hpaid
    rcases hpaid with hpaid | hnew
    · exact settled.agree other paid hother hpaid hpaidOwner
    · obtain rfl := Payment.row_injective hnew
      have hsame : other = order := by
        refine Order.row_injective (eq_of_key_eq coherent.orders_key hother hstored ?_)
        exact hpaidOwner.symm.trans (howner.trans hid.symm)
      constructor
      · exact fun hpaid => absurd (hstatus.symm.trans hpaid) (by decide)
      · intro hcancelled
        rw [hsame, h.pending] at hcancelled
        cases hcancelled

/-- What an operation does keeps payments in agreement with their orders. -/
theorem effect {context : Context} {fault : Option Fault} {operation : Operation}
    {events : List Event} (coherent : store.tables.Coherent) (settled : store.tables.Settled)
    (h : operation.Effect context fault store events t') : t'.Settled := by
  cases h with
  | placed asked hasLines placed => exact settled.placed placed
  | itemCancelled cancelled =>
    exact settled.accounted coherent cancelled.amended (cancelled.accounted settled)
  | orderCancelled cancelled answered undue =>
    exact settled.accounted coherent (cancelled.amended coherent)
      (cancelled.accounted coherent settled (Bool.eq_false_iff.mp undue))
  | orderRefunded cancelled answered due refund =>
    have hcoherent := coherent.amended (cancelled.amended coherent)
    have hsettled := cancelled.settled_of_refundDue coherent settled due
    exact hsettled.accounted hcoherent refund.amended (refund.accounted hsettled)
  | refundFailed cancelled answered due => exact cancelled.settled_of_refundDue coherent settled due
  | statusChanged moved =>
    exact settled.accounted coherent (moved.amended coherent) (moved.accounted coherent settled)
  | intentCreated opened => exact settled.opened coherent opened
  | @paymentConfirmed _ _ _ _ _ confirmation _ called changes =>
    cases confirmation with
    | alreadyPaid => exact absurd rfl changes
    | paid => exact settled.accounted coherent called.amended (called.accounted settled)
    | failed => exact called.settled_failed coherent settled
  | refunded refund => exact settled.accounted coherent refund.amended (refund.accounted settled)
  | cartCreated created =>
    rw [created.changed]
    exact settled.congr rfl rfl
  | cartReplaced untouched =>
    rw [untouched]
    exact settled.congr rfl rfl
  | productRevised found natural changed =>
    rw [changed]
    exact settled.congr rfl rfl

end Tables.Settled

/-- An operation that meets no fault announces no refund that failed. -/
theorem Operation.Effect.not_refundFailed {context : Context} {store : Store}
    {operation : Operation} {events : List Event} {t' : Tables} {id : OrderId} {cause : Error}
    (coherent : store.tables.Coherent) (settled : store.tables.Settled)
    (h : operation.Effect context none store events t') : .refundFailed id cause ∉ events := by
  cases h with
  | refundFailed cancelled answered due failed =>
    obtain ⟨p, p', rfl, hcalm, hexec⟩ := failed
    obtain ⟨refunded, last, hreturns⟩ := cancelled.succeeds_refund (hcalm rfl) coherent settled due
    rw [Returns, hexec] at hreturns
    cases hreturns
  | _ => simp

namespace Tables.Outstanding

variable {t t' : Tables} {id : OrderId}

theorem congr (h : t'.Outstanding id) (horders : t'.orders = t.orders)
    (hpayments : ∀ payment : Payment, payment.row ∈ t'.payments → payment.status = .paid →
      payment.row ∈ t.payments) : t.Outstanding id := by
  obtain ⟨order, payment, horder, hpayment, hid, howner, hcancelled, hpaid⟩ := h
  rw [horders] at horder
  exact ⟨order, payment, horder, hpayments payment hpayment hpaid, hid, howner, hcancelled, hpaid⟩

theorem of_placed {clock : Clock} {user : UserId} {addressId : AddressId} {method : PaymentMethod}
    {source : Order.Source} {store : Store} {address : Address} {cart : Option CartId}
    {requests : List LineRequest} {lines : List PricedLine} {order : Order}
    (placed : Order.Placed clock user addressId method source store address cart requests lines
      order t') (h : t'.Outstanding id) : store.tables.Outstanding id := by
  obtain ⟨other, payment, hother, hpayment, hid, howner, hcancelled, hpaid⟩ := h
  rw [placed.payments_eq] at hpayment
  rw [placed.orders_eq, List.mem_append, List.mem_singleton] at hother
  rcases hother with hother | hnew
  · exact ⟨other, payment, hother, hpayment, hid, howner, hcancelled, hpaid⟩
  · rw [Order.row_injective hnew, placed.order_eq] at hcancelled
    cases hcancelled

theorem of_opened {clock : Clock} {currency : String} {user : UserId} {order : Order}
    {method : PaymentMethod} {number : Nat} {asked : OrderId} {payment : Payment}
    (opened : Payment.Opened clock currency user asked method number t order payment t')
    (h : t'.Outstanding id) : t.Outstanding id := by
  apply h.congr (by rw [opened.changed])
  intro other hother hpaid
  rw [opened.changed, List.mem_append, List.mem_singleton] at hother
  rcases hother with hother | hnew
  · exact hother
  · rw [Payment.row_injective hnew, opened.payment_eq] at hpaid
    cases hpaid

theorem of_failed {clock : Clock} {reference reported : String} {order : Order}
    {found payment : Payment} (settled : t.Settled)
    (called : Payment.CalledBack clock reference reported t order found payment .failed t')
    (h : t'.Outstanding id) : t.Outstanding id := by
  obtain ⟨hfollows, -, hchanged⟩ := called.failed_eq settled
  apply h.congr (by rw [hchanged])
  intro other hother hpaid
  rw [hchanged] at hother
  rcases Payment.mem_writeTo settled.sound hfollows hother with ⟨hold, -⟩ | ⟨next, hnext, heq⟩
  · exact hold
  · cases hnext
    rw [Payment.row_injective heq] at hpaid
    cases hpaid

/-- An operation that leaves a cancelled order with a paid payment found it so, or it is a
cancellation that announces that its refund failed. -/
theorem of_effect {context : Context} {fault : Option Fault} {store : Store}
    {operation : Operation} {events : List Event} (coherent : store.tables.Coherent)
    (settled : store.tables.Settled) (effect : operation.Effect context fault store events t')
    (h : t'.Outstanding id) :
    store.tables.Outstanding id ∨ ∃ user cause, operation = .cancelOrder user id ∧
      .refundFailed id cause ∈ events ∧ fault ≠ none := by
  cases effect with
  | placed asked hasLines placed => exact .inl (h.of_placed placed)
  | itemCancelled cancelled =>
    exact .inl (settled.outstanding_of_accounted coherent cancelled.amended
      (cancelled.accounted settled) h)
  | orderCancelled cancelled answered undue =>
    exact .inl (settled.outstanding_of_accounted coherent (cancelled.amended coherent)
      (cancelled.accounted coherent settled (Bool.eq_false_iff.mp undue)) h)
  | @orderRefunded _ asked order _ found _ _ _ _ _ middle _ cancelled answered due refund =>
    have hcoherent := coherent.amended (cancelled.amended coherent)
    have hsettled := cancelled.settled_of_refundDue coherent settled due
    obtain ⟨-, hclosed⟩ := refund.closedIn hsettled
    have hne : id ≠ asked := by
      rintro rfl
      exact hclosed.not_outstanding h
    have hfound := Order.id_of_found refund.order_found
    have horder := Order.id_of_found cancelled.order_found
    have hmiddle := hsettled.outstanding_of_ne hcoherent refund.amended
      (refund.accounted hsettled).1 (by rw [hfound]; exact hne) h
    exact .inl (settled.outstanding_of_ne coherent (cancelled.amended coherent)
      (Order.CalledOff.followsIn due) (by rw [horder]; exact hne) hmiddle)
  | @refundFailed user asked order answer _ _ cause _ cancelled answered due failed =>
    by_cases hsame : id = asked
    · right
      subst hsame
      have hannounced : Event.refundFailed id cause ∈
          [Event.orderCancelled answer, Event.refundFailed id cause] :=
        List.mem_cons_of_mem _ List.mem_cons_self
      refine ⟨user, cause, rfl, hannounced, fun hcalm => ?_⟩
      subst hcalm
      have heffect := Operation.Effect.refundFailed cancelled answered due failed
      exact heffect.not_refundFailed coherent settled hannounced
    · have horder := Order.id_of_found cancelled.order_found
      exact .inl (settled.outstanding_of_ne coherent (cancelled.amended coherent)
        (Order.CalledOff.followsIn due) (by rw [horder]; exact hsame) h)
  | statusChanged moved =>
    exact .inl (settled.outstanding_of_accounted coherent (moved.amended coherent)
      (moved.accounted coherent settled) h)
  | intentCreated opened => exact .inl (h.of_opened opened)
  | @paymentConfirmed _ _ _ _ _ confirmation _ called changes =>
    cases confirmation with
    | alreadyPaid => exact absurd rfl changes
    | paid =>
      exact .inl (settled.outstanding_of_accounted coherent called.amended
        (called.accounted settled) h)
    | failed => exact .inl (h.of_failed settled called)
  | refunded refund =>
    exact .inl (settled.outstanding_of_accounted coherent refund.amended
      (refund.accounted settled) h)
  | cartCreated created =>
    rw [created.changed] at h
    exact .inl h
  | cartReplaced untouched =>
    rw [untouched] at h
    exact .inl h
  | productRevised found natural changed =>
    rw [changed] at h
    exact .inl h

end Tables.Outstanding
end Storefront
