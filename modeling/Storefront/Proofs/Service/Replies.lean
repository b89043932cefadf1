import Storefront.Proofs.Order.Fulfilment
import Storefront.Proofs.Payment.Operations
import Storefront.Proofs.Service.Atomicity

/-!
What operations answer. An operation that succeeds, with or without a fault, answers what it has
written, and announces it. Only the cancellation of an order by its user goes on once it is
committed, and may end in three ways.
-/

namespace Storefront

open Session

variable {context : Context} {p p' : Progress} {user : UserId} {id : OrderId}

namespace Order

theorem itemCancelled_of_returns_cancelItem {itemId : ItemId} {reason : String} {answer : Order}
    (h : Returns (cancelItem user id itemId reason) context p answer p') :
    ∃ order item items payment,
      ItemCancelled context.clock user id itemId reason p.tables order item items payment
        p'.tables ∧
      answer = (order.lessItem items payment).1.stamp context.clock.store ∧
      p'.events = p.events ++ [.orderItemCancelled answer itemId] := by
  obtain ⟨_, middle, hbody, rfl, rfl⟩ := returns_announced.mp h
  obtain ⟨order, item, items, payment, hcancelled, hanswered⟩ :=
    itemCancelled_of_returns rfl hbody.without_fault
  refine ⟨order, item, items, payment, hcancelled, hanswered, ?_⟩
  rw [hbody.events_eq]

theorem moved_of_returns_updateStatus {next : OrderStatus} {answer : Order}
    (h : Returns (updateStatus id next) context p answer p') :
    ∃ order items payment,
      Moved context.clock id next p.tables order items payment p'.tables ∧
      answer = (order.moved next context.clock.wall payment).1.stamp context.clock.store ∧
      p'.events = p.events ++ [.orderStatusChanged answer order.status] := by
  obtain ⟨moved, middle, hbody, rfl, rfl⟩ := returns_announced.mp h
  obtain ⟨order, items, payment, hmoved, rfl⟩ := moved_of_returns rfl hbody.without_fault
  refine ⟨order, items, payment, hmoved, rfl, ?_⟩
  rw [hbody.events_eq]

/-- What a checkout answers is read once the order is committed. -/
theorem storedIn_of_returns_place {address : AddressId} {method : PaymentMethod} {source : Source}
    {details : OrderDetails}
    (h : Returns (place user address method source) context p details p') :
    ∃ order middle, Returns (checkOut user address method source) context p order middle ∧
      p'.tables = middle.tables ∧ details.order.id = order.id ∧ details.StoredIn p'.tables := by
  obtain ⟨order, middle, hcommitted, hrest⟩ := returns_bind.mp h
  obtain ⟨⟨⟩, announced, hannounce, hread⟩ := returns_bind.mp hrest
  obtain rfl := returns_announce.mp hannounce
  have htables : p'.tables = middle.tables := hread.tables_eq
  obtain ⟨hid, hstored, -⟩ := (returns_details rfl).mp hread.without_fault
  refine ⟨order, middle, hcommitted, htables, hid, ?_⟩
  rw [htables]
  exact hstored

/-- How a cancellation goes on once the order is called off: no refund is due, the refund is made,
or it fails. -/
inductive CancelEnds (context : Context) (fault : Option Fault) (id : OrderId) (t : Tables)
    (cancelled : Order) (due : Bool) : Order → List Event → Tables → Prop
  | undue (settled : due = false) :
      CancelEnds context fault id t cancelled due cancelled [.orderCancelled cancelled] t
  | refunded {found : Order} {paid refunded : Payment} {stored : PaymentRow} {t' : Tables}
      (owed : due) (refund : Payment.Refunded context.clock id t found paid stored t')
      (written : refunded.row =
        Payment.overwrite { paid with status := .refunded } context.clock.store stored) :
      CancelEnds context fault id t cancelled due { cancelled with paymentStatus := .refunded }
        [.orderCancelled cancelled, .paymentUpdated refunded] t'
  | refundFailed {cause : Error} (owed : due)
      (failed : ∃ p p', p.tables = t ∧ (fault = none → p.fault = none) ∧
        (Payment.refundForOrder id).exec context p = (.error cause, p')) :
      CancelEnds context fault id t cancelled due cancelled
        [.orderCancelled cancelled, .refundFailed id cause] t

end Order

namespace Payment

theorem opened_of_returns_createIntent {method : PaymentMethod} {intent : PaymentIntent}
    (h : Returns (createIntent user id method) context p intent p') :
    ∃ order,
      Opened context.clock context.currency user id method p.sequences.payment p.tables order
        intent.payment p'.tables ∧
      intent.clientSecret = intent.payment.gatewayId ∧
      p'.events = p.events ++ [.paymentUpdated intent.payment] := by
  obtain ⟨_, start, hread, hintent⟩ := returns_bind.mp h
  obtain ⟨rfl, rfl⟩ := returns_read.mp hread
  obtain ⟨_, middle, hbody, rfl, rfl⟩ := returns_announced.mp hintent
  obtain ⟨order, payment, hopened, rfl⟩ := opened_of_returns rfl hbody.without_fault
  refine ⟨order, hopened, rfl, ?_⟩
  rw [hbody.events_eq]

/-- A callback announces the payment if it changes it. -/
theorem calledBack_of_returns_confirm {reference reported : String} {answer : Payment}
    (h : Returns (confirm reference reported) context p answer p') :
    ∃ order found payment confirmation,
      CalledBack context.clock reference reported p.tables order found payment confirmation
        p'.tables ∧
      answer = payment.answered confirmation context.clock ∧
      p'.events = p.events ++
        if confirmation = .alreadyPaid then [] else [.paymentUpdated answer] := by
  obtain ⟨called, middle, hbody, hrest⟩ := returns_bind.mp h
  obtain ⟨order, found, payment, confirmation, hcalled, rfl⟩ :=
    calledBack_of_returns rfl hbody.without_fault
  have hevents : middle.events = p.events := hbody.events_eq
  refine ⟨order, found, payment, confirmation, ?_⟩
  by_cases hpaid : confirmation = .alreadyPaid
  · subst hpaid
    obtain ⟨rfl, rfl⟩ := returns_pure.mp hrest
    exact ⟨hcalled, rfl, by rw [hevents, if_pos rfl, List.append_nil]⟩
  · simp only [ne_eq, hpaid, not_false_eq_true, decide_true, if_true, returns_bind,
      returns_announce, returns_pure, exists_eq_left, exists_const] at hrest
    obtain ⟨rfl, rfl⟩ := hrest
    exact ⟨hcalled, rfl, by rw [hevents, if_neg hpaid]⟩

theorem refunded_of_returns_refundForOrder {answer : Payment}
    (h : Returns (refundForOrder id) context p answer p') :
    ∃ order payment stored,
      Refunded context.clock id p.tables order payment stored p'.tables ∧
      answer.row = overwrite { payment with status := .refunded } context.clock.store stored ∧
      p'.events = p.events ++ [.paymentUpdated answer] := by
  obtain ⟨refunded, middle, hbody, rfl, rfl⟩ := returns_announced.mp h
  obtain ⟨order, payment, stored, hrefunded, hwritten⟩ :=
    refunded_of_returns rfl hbody.without_fault
  refine ⟨order, payment, stored, hrefunded, hwritten, ?_⟩
  rw [hbody.events_eq]

end Payment

/-- A user's cancellation calls the order off, whatever becomes of the refund. -/
theorem Order.calledOff_of_returns_cancel {answer : Order}
    (h : Returns (cancel user id) context p answer p') :
    ∃ order items payment t events,
      CalledOff context.clock user id p.tables order items payment t ∧
      CancelEnds context p.fault id t ((order.calledOff payment).1.stamp context.clock.store)
        (order.refundDue payment) answer events p'.tables ∧
      p'.events = p.events ++ events := by
  obtain ⟨cancelled, middle, hbody, hrest⟩ := returns_bind.mp h
  obtain ⟨⟨⟩, announced, hannounce, hrest⟩ := returns_bind.mp hrest
  obtain rfl := returns_announce.mp hannounce
  obtain ⟨order, items, payment, hcancelled, rfl⟩ := calledOff_of_returns rfl hbody.without_fault
  have hevents : middle.events = p.events := hbody.events_eq
  by_cases hdue : order.refundDue payment
  · rw [if_pos hdue] at hrest
    obtain ⟨outcome, last, hattempt, hrest⟩ := returns_bind.mp hrest
    rw [returns_attempt] at hattempt
    cases outcome with
    | ok refunded =>
      obtain ⟨rfl, rfl⟩ := returns_pure.mp hrest
      obtain ⟨found, paid, stored, hrefunded, hwritten, hannounced⟩ :=
        Payment.refunded_of_returns_refundForOrder hattempt
      refine ⟨order, items, payment, _, _, hcancelled, .refunded hdue hrefunded hwritten, ?_⟩
      rw [hannounced, hevents, List.append_assoc]
      rfl
    | error cause =>
      obtain ⟨htables, hsame⟩ := Payment.atomic_refundForOrder id _ _ cause last hattempt
      obtain ⟨⟨⟩, announced, hannounce, hrest⟩ := returns_bind.mp hrest
      obtain rfl := returns_announce.mp hannounce
      obtain ⟨rfl, rfl⟩ := returns_pure.mp hrest
      have hcalled : CalledOff context.clock user id p.tables order items payment last.tables := by
        rw [htables]
        exact hcancelled
      refine ⟨order, items, payment, _, _, hcalled,
        .refundFailed hdue ⟨_, _, htables.symm, ?_, hattempt⟩, ?_⟩
      · exact fun calm => hbody.fault_eq_none calm
      · rw [hsame, hevents, List.append_assoc]
        rfl
  · rw [if_neg hdue] at hrest
    obtain ⟨rfl, rfl⟩ := returns_pure.mp hrest
    refine ⟨order, items, payment, _, _, hcancelled, .undue (Bool.eq_false_iff.mpr hdue), ?_⟩
    rw [hevents]

end Storefront
