import Storefront.Proofs.Purchase.Completion
import Storefront.Proofs.Service.Isolation

/-!
Callbacks that come twice, or in another order than they were sent. What a run of callbacks makes of
a payment depends on the first success in it and, without one, on the last failure; once the payment
is paid, nothing that the gateway says of it changes anything.
-/

namespace Storefront

open Session

/-! What callbacks say. -/

namespace Step

/-- The step is a callback with the given reference and text, and meets no fault. -/
def CallsBack (reference text : String) (step : Step) : Prop :=
  step.operation? = some (.confirmPayment reference text) ∧ step.fault = none

/-- The step is a callback with the given text. -/
def reports (text : String) (step : Step) : Bool :=
  match step.operation? with
  | some (.confirmPayment _ reported) => reported = text
  | _ => false

/-- The first of the callbacks that reports a success. -/
def firstSuccess (calls : List Step) : Option Step :=
  calls.find? (reports "success")

/-- The last of the callbacks that reports a failure. -/
def lastFailure (calls : List Step) : Option Step :=
  calls.reverse.find? (reports "failed")

variable {reference text : String} {call : Step}

theorem CallsBack.reports_iff (h : call.CallsBack reference text) {other : String} :
    call.reports other ↔ text = other := by
  simp only [reports, h.1, decide_eq_true_eq]

/-- Of callbacks that go on, the last failure is the new one or the one before. -/
theorem lastFailure_snoc (calls : List Step) (call : Step) :
    lastFailure (calls ++ [call]) =
      if call.reports "failed" then some call else lastFailure calls := by
  rw [lastFailure, List.reverse_concat, List.find?_cons, lastFailure]
  cases call.reports "failed" <;> rfl

theorem firstSuccess_snoc_eq_none {calls : List Step} {call : Step} :
    firstSuccess (calls ++ [call]) = none ↔
      firstSuccess calls = none ∧ ¬call.reports "success" := by
  simp [firstSuccess]

end Step

/-! What callbacks write. -/

/-- The row of a payment that a callback settles. -/
def PaymentRow.settled (clock : Clock) (row : PaymentRow) : PaymentRow :=
  { row with
    status := word PaymentStatus.paid
    paidAt := some clock.wall
    failureReason := none
    updatedAt := clock.store }

/-- The row of a payment of which a callback reports a failure. -/
def PaymentRow.failed (clock : Clock) (row : PaymentRow) : PaymentRow :=
  { row with
    status := word PaymentStatus.failed
    failureReason := some "Gateway reported failure"
    updatedAt := clock.store }

/-- The row of an order of which a callback settles the payment. -/
def OrderRow.settled (clock : Clock) (method : PaymentMethod) (row : OrderRow) : OrderRow :=
  { row with
    paymentStatus := word PaymentStatus.paid
    paymentMethod := word method
    paidAt := some clock.wall
    updatedAt := clock.store }

namespace Tables

/-- The tables once a payment is settled with its order. -/
def settlePayment (clock : Clock) (payment : Payment) (t : Tables) : Tables :=
  { t with
    orders := updateWhere (fun row => row.id = payment.orderId)
      (OrderRow.settled clock payment.method) t.orders
    payments := updateWhere (fun row => row.id = payment.id) (PaymentRow.settled clock) t.payments }

/-- The tables once a payment has failed. -/
def failPayment (clock : Clock) (payment : Payment) (t : Tables) : Tables :=
  { t with
    payments := updateWhere (fun row => row.id = payment.id) (PaymentRow.failed clock) t.payments }

variable {clock later : Clock} {payment : Payment} {t : Tables}

/-- That a payment failed before is not seen once it is settled. -/
theorem settlePayment_failPayment :
    (t.failPayment clock payment).settlePayment later payment = t.settlePayment later payment := by
  have hpayments : updateWhere (fun row => row.id = payment.id) (PaymentRow.settled later)
      (updateWhere (fun row => row.id = payment.id) (PaymentRow.failed clock) t.payments) =
      updateWhere (fun row => row.id = payment.id) (PaymentRow.settled later) t.payments := by
    apply updateWhere_absorb <;> exact fun _ => rfl
  simp only [settlePayment, failPayment, hpayments]

/-- Only the last of the failures is seen. -/
theorem failPayment_failPayment :
    (t.failPayment clock payment).failPayment later payment = t.failPayment later payment := by
  have hpayments : updateWhere (fun row => row.id = payment.id) (PaymentRow.failed later)
      (updateWhere (fun row => row.id = payment.id) (PaymentRow.failed clock) t.payments) =
      updateWhere (fun row => row.id = payment.id) (PaymentRow.failed later) t.payments := by
    apply updateWhere_absorb <;> exact fun _ => rfl
  simp only [failPayment, hpayments]

/-- The tables once the last of the callbacks that reports a failure is heard, if there is one. -/
def failedBy (failure : Option Step) (payment : Payment) (t : Tables) : Tables :=
  failure.elim t fun call => t.failPayment call.clock payment

theorem failPayment_failedBy (failure : Option Step) :
    (t.failedBy failure payment).failPayment later payment = t.failPayment later payment := by
  cases failure with
  | none => rfl
  | some call => exact failPayment_failPayment

theorem settlePayment_failedBy (failure : Option Step) :
    (t.failedBy failure payment).settlePayment later payment = t.settlePayment later payment := by
  cases failure with
  | none => rfl
  | some call => exact settlePayment_failPayment

end Tables

namespace Payment

/-- A failure can be written to any payment. -/
theorem follows_failed (payment : Payment) (now : Instant) :
    payment.Follows (payment.confirmed .failed now) :=
  ⟨rfl, rfl, rfl⟩

/-- What is decided about a payment that is unsettled depends on the text alone. -/
theorem decideConfirmation_unsettled {order : OrderStatus} {current : PaymentStatus}
    (uncancelled : order ≠ .cancelled) (unsettled : current.isUnsettled) (reported : String) :
    decideConfirmation order current reported =
      if reported = "success" then .ok .paid
      else if reported = "failed" then .ok .failed
      else .error (.invalidPaymentStatus reported) := by
  cases current with
  | pending => rw [decideConfirmation, if_neg uncancelled]
  | failed => rw [decideConfirmation, if_neg uncancelled]
  | _ => cases unsettled

/-- A payment once the last of the callbacks that reports a failure is heard, if there is one. -/
def failedBy (failure : Option Step) (payment : Payment) : Payment :=
  failure.elim payment fun call => payment.answered .failed call.clock

theorem isUnsettled_failedBy {payment : Payment} (unsettled : payment.status.isUnsettled)
    (failure : Option Step) : (payment.failedBy failure).status.isUnsettled := by
  cases failure with
  | none => exact unsettled
  | some call => rfl

/-! What is told of a payment next hides that it failed before. -/

section FailedBefore

variable (failure : Option Step) (payment : Payment) (clock : Clock) (t : Tables)

theorem answered_failed_failedBy :
    (payment.failedBy failure).answered .failed clock = payment.answered .failed clock := by
  cases failure <;> rfl

theorem answered_paid_failedBy :
    (payment.failedBy failure).answered .paid clock = payment.answered .paid clock := by
  cases failure <;> rfl

theorem failPayment_of_failedBy :
    t.failPayment clock (payment.failedBy failure) = t.failPayment clock payment := by
  cases failure <;> rfl

theorem settlePayment_of_failedBy :
    t.settlePayment clock (payment.failedBy failure) = t.settlePayment clock payment := by
  cases failure <;> rfl

end FailedBefore

/-- A reference leads to a payment and to the payment's order, and both can be written back. -/
structure LedTo (t : Tables) (reference : String) (order : Order) (payment : Payment) : Prop where
  sound : PaymentRow.Sound t.payments
  text : fitsText reference
  stored : payment.row ∈ t.payments
  reference_eq : payment.gatewayId = some reference
  orders_key : (t.orders.map (·.id)).Nodup
  order_stored : order.row ∈ t.orders
  order_eq : payment.orderId = order.id
  total_fits : fitsNumeric 12 order.finalTotal

namespace LedTo

variable {t : Tables} {reference text : String} {order : Order} {payment : Payment}
  {context : Context} {p : Progress} {confirmation : Confirmation}

theorem order_found (h : LedTo t reference order payment) :
    t.orders.find? (fun row => row.id = payment.orderId) = some order.row := by
  rw [h.order_eq]
  exact (find?_key_iff h.orders_key).mpr ⟨h.order_stored, rfl⟩

theorem payment_found (h : LedTo t reference order payment) :
    t.payments.find? (fun row => row.id = payment.id) = some payment.row :=
  (find?_key_iff h.sound.key).mpr ⟨h.stored, rfl⟩

/-- The payment is the only one with its reference. -/
theorem reference_found (h : LedTo t reference order payment) :
    t.payments.find? (fun row => row.gatewayId = some reference) = some payment.row := by
  cases hfound : t.payments.find? fun row => row.gatewayId = some reference with
  | none =>
    have hnone := List.find?_eq_none.mp hfound payment.row h.stored
    exact absurd (decide_eq_true h.reference_eq) hnone
  | some row =>
    obtain ⟨hrow, hreference⟩ := mem_of_find?_key hfound
    have hid : row.id = payment.row.id := h.sound.reference_unique row hrow payment.row h.stored
      reference hreference h.reference_eq
    rw [eq_of_key_eq h.sound.key hrow h.stored hid]

/-- A callback gets as far as the order and the payment. -/
theorem exec_found {α : Type} (h : LedTo p.tables reference order payment)
    (calm : p.fault = none) (next : Order → Payment → Session α) :
    (do
      let found ← Session.found .paymentNotFound (← findByGateway reference)
      let order ← Session.found .notFound (← Order.find found.orderId)
      let payment ← Session.found .paymentNotFound (← find found.id)
      next order payment).exec context p = (next order payment).exec context p :=
  exec_onReference calm h.text h.reference_found h.order_found h.payment_found next

/-- What is decided against is refused. -/
theorem refuses_confirm {cause : Error} (h : LedTo p.tables reference order payment)
    (calm : p.fault = none)
    (decided : decideConfirmation order.status payment.status text = .error cause) :
    Refuses (confirm reference text) context p cause := by
  refine Refuses.bind (Refuses.transaction ((h.exec_found calm _).trans ?_)) _
  rw [decided]
  rfl

/-- A payment that is paid is answered as it is. -/
theorem returns_confirm_paid (h : LedTo p.tables reference order payment)
    (calm : p.fault = none) (paid : payment.status = .paid) :
    Returns (confirm reference text) context p payment p := by
  have happlied : Returns (applyCallback reference text) context p (payment, false) p := by
    refine returns_transaction.mpr ((h.exec_found calm _).trans ?_)
    rw [paid]
    rfl
  exact happlied.bind_iff.mpr (returns_pure.mpr ⟨rfl, rfl⟩)

/-- A callback that is decided for succeeds. -/
theorem succeeds_applyCallback (h : LedTo p.tables reference order payment)
    (calm : p.fault = none)
    (decided : decideConfirmation order.status payment.status text = .ok confirmation) :
    Succeeds (applyCallback reference text) context p := by
  apply Succeeds.transaction
  unfold Succeeds Returns
  rw [h.exec_found calm, decided]
  cases confirmation with
  | alreadyPaid => exact succeeds_pure _
  | paid =>
    have horder := h.order_found
    rw [h.order_eq] at horder
    obtain ⟨paid, last, hsettle⟩ : Succeeds (settle order payment) context p :=
      Payment.succeeds_settle calm h.sound horder h.stored h.total_fits
    exact hsettle.bind (succeeds_pure _)
  | failed =>
    obtain ⟨failed, last, hsave⟩ :
        Succeeds (save (payment.confirmed .failed context.clock.wall)) context p :=
      Payment.succeeds_save_of_follows calm h.sound h.stored (follows_failed payment _)
    exact hsave.bind (succeeds_pure _)

/-- A callback reaches no other payment and no other order. -/
theorem eq_of_calledBack {clock : Clock} {order' : Order} {found payment' : Payment} {t' : Tables}
    (h : LedTo t reference order payment)
    (called : CalledBack clock reference text t order' found payment' confirmation t') :
    order' = order ∧ payment' = payment := by
  obtain rfl : payment = found :=
    row_injective (Option.some.inj (h.reference_found.symm.trans called.reference_found))
  exact ⟨Order.row_injective (Option.some.inj (called.order_found.symm.trans h.order_found)),
    row_injective (Option.some.inj (called.payment_found.symm.trans h.payment_found))⟩

/-- A callback that is decided for answers the payment as it leaves it. -/
theorem returns_confirm (h : LedTo p.tables reference order payment)
    (calm : p.fault = none)
    (decided : decideConfirmation order.status payment.status text = .ok confirmation) :
    ∃ p', Returns (confirm reference text) context p (payment.answered confirmation context.clock)
        p' ∧
      p'.tables = callBack context.clock order payment confirmation p.tables := by
  obtain ⟨answer, middle, happlied⟩ :
      Succeeds (applyCallback reference text) context p := h.succeeds_applyCallback calm decided
  obtain ⟨order', found, payment', confirmation', hcalled, rfl⟩ :=
    calledBack_of_returns calm happlied
  obtain ⟨rfl, rfl⟩ := h.eq_of_calledBack hcalled
  obtain rfl : confirmation = confirmation' := Except.ok.inj (decided.symm.trans hcalled.decided)
  unfold confirm
  simp only [happlied.bind_iff]
  by_cases hchanges : confirmation = .alreadyPaid
  · subst hchanges
    exact ⟨middle, by simp, hcalled.changed⟩
  · refine ⟨{ middle with
      events := middle.events ++ [.paymentUpdated (payment'.answered confirmation context.clock)] },
      ?_, hcalled.changed⟩
    simp [hchanges]

variable {currency : String} {store : Store} {call : Step}

/-- A callback that is decided against only answers so. -/
theorem run_refused {cause : Error} (h : LedTo store.tables reference order payment)
    (hcall : call.CallsBack reference text)
    (decided : decideConfirmation order.status payment.status text = .error cause) :
    call.OnlyAnswers currency store (.confirmPayment reference text) (.error cause) := by
  obtain ⟨asked, calm⟩ := hcall
  have hrefused : Refuses (confirm reference text) (call.context currency) (call.start store)
      cause := h.refuses_confirm calm decided
  exact Step.onlyAnswers_of_refuses currency asked (hrefused.map _)

/-- A callback that is decided for does what it is decided to do. -/
theorem run_decided (h : LedTo store.tables reference order payment)
    (hcall : call.CallsBack reference text)
    (decided : decideConfirmation order.status payment.status text = .ok confirmation) :
    (call.run currency store).answer = call.answerOf (.confirmPayment reference text)
        (.ok (.payment (payment.answered confirmation call.clock))) ∧
      (call.run currency store).store.tables =
        callBack call.clock order payment confirmation store.tables := by
  obtain ⟨asked, calm⟩ := hcall
  obtain ⟨p', hreturns, htables⟩ : ∃ p', Returns (confirm reference text) (call.context currency)
      (call.start store) (payment.answered confirmation call.clock) p' ∧
        p'.tables = callBack call.clock order payment confirmation store.tables :=
    h.returns_confirm calm decided
  obtain ⟨hanswer, hstore, -⟩ :=
    Step.outcome_of_returns currency asked (returns_map.mpr ⟨_, hreturns, rfl⟩)
  exact ⟨hanswer, (congrArg (·.tables) hstore).trans htables⟩

/-- Every payment that a run leaves behind is the one that its reference leads to. -/
theorem of_storeAfter {steps : List Step} {start : Store}
    (served : ∀ step ∈ steps, step.IsServed) (constrained : start.tables.Constrained)
    (orders : start.tables.orders = [])
    (stored : payment.row ∈ (storeAfter currency steps start).tables.payments)
    (reference_eq : payment.gatewayId = some reference)
    (order_stored : order.row ∈ (storeAfter currency steps start).tables.orders)
    (order_eq : payment.orderId = order.id) :
    LedTo (storeAfter currency steps start).tables reference order payment := by
  have hready := ready_storeAfter currency served constrained orders
  have hsound := hready.lawful.settled.sound
  obtain ⟨purchase, hrow, hpurchase⟩ := Purchase.StoredIn.exists_of_mem hready.lawful order_stored
  obtain rfl := Order.row_injective hrow
  have hfits := hsound.reference_fits payment.row stored
  rw [show payment.row.gatewayId = some reference from reference_eq, Option.all_some, fitsVarchar,
    Bool.and_eq_true] at hfits
  exact ⟨hsound, hfits.1, stored, reference_eq, hready.lawful.coherent.orders_key, order_stored,
    order_eq, hpurchase.total_fits hready⟩

end LedTo

/-- A callback with the reference finds the payment, and the payment's order. -/
structure Reached (t : Tables) (reference : String) (order : Order) (payment : Payment) : Prop where
  sound : PaymentRow.Sound t.payments
  text : fitsText reference
  stored : payment.row ∈ t.payments
  reference_eq : payment.gatewayId = some reference
  orders_key : (t.orders.map (·.id)).Nodup
  order_stored : order.row ∈ t.orders
  order_eq : payment.orderId = order.id
  uncancelled : order.status ≠ .cancelled
  total_fits : fitsNumeric 12 order.finalTotal

namespace Reached

variable {t t' : Tables} {reference text : String} {order : Order} {payment : Payment}
  {clock : Clock}

theorem ledTo (h : Reached t reference order payment) : LedTo t reference order payment :=
  ⟨h.sound, h.text, h.stored, h.reference_eq, h.orders_key, h.order_stored, h.order_eq,
    h.total_fits⟩

/-- What settling a payment writes. -/
theorem callBack_paid (h : Reached t reference order payment) (clock : Clock) :
    callBack clock order payment .paid t = t.settlePayment clock payment := by
  have horders : (settledBy order payment clock.wall).writeTo clock.store t.orders =
      updateWhere (fun row => row.id = order.id) (OrderRow.settled clock payment.method) t.orders :=
    Order.writeTo_eq h.orders_key h.order_stored rfl rfl
  have hpayments : writeTo clock.store (some (payment.confirmed .paid clock.wall)) t.payments =
      updateWhere (fun row => row.id = payment.id) (PaymentRow.settled clock) t.payments :=
    writeTo_eq h.sound.key h.stored rfl rfl
  rw [callBack, Tables.amend, horders, hpayments, Tables.settlePayment, h.order_eq]

theorem callBack_failed (h : Reached t reference order payment) (clock : Clock) :
    callBack clock order payment .failed t = t.failPayment clock payment := by
  have hpayments : writeTo clock.store (some (payment.confirmed .failed clock.wall)) t.payments =
      updateWhere (fun row => row.id = payment.id) (PaymentRow.failed clock) t.payments :=
    writeTo_eq h.sound.key h.stored rfl rfl
  rw [callBack, hpayments, Tables.failPayment]

/-- A payment that is written back is still one of the payments. -/
theorem stored_writeTo (h : Reached t reference order payment) {next : Payment}
    (follows : payment.Follows next) (now : Instant) :
    PaymentRow.Sound (writeTo now (some next) t.payments) ∧
      (next.stamp now).row ∈ writeTo now (some next) t.payments := by
  have hfollows : FollowsIn payment.orderId t.payments (some next) := by
    rintro _ ⟨⟩
    exact ⟨payment, h.stored, rfl, follows⟩
  exact ⟨h.sound.writeTo hfollows, mem_writeTo_self h.stored follows.fixed⟩

/-- A payment that has failed is reached as before. -/
theorem failed (h : Reached t reference order payment) (clock : Clock) :
    Reached (t.failPayment clock payment) reference order (payment.answered .failed clock) := by
  obtain ⟨hsound, hstored⟩ := h.stored_writeTo (follows_failed payment clock.wall) clock.store
  rw [← h.callBack_failed clock]
  exact ⟨hsound, h.text, hstored, h.reference_eq, h.orders_key, h.order_stored, h.order_eq,
    h.uncancelled, h.total_fits⟩

/-- So is one that is settled, and its order with it. -/
theorem settled (h : Reached t reference order payment) (clock : Clock) :
    Reached (t.settlePayment clock payment) reference
      ((settledBy order payment clock.wall).stamp clock.store) (payment.answered .paid clock) := by
  have hfollows : payment.Follows (payment.confirmed .paid clock.wall) := ⟨rfl, rfl, rfl⟩
  have hfixed : (settledBy order payment clock.wall).fixed = order.fixed := rfl
  have hid : order.row.id = (settledBy order payment clock.wall).id := rfl
  obtain ⟨hsound, hstored⟩ := h.stored_writeTo hfollows clock.store
  have hkeys : ((settledBy order payment clock.wall).writeTo clock.store t.orders).map (·.id) =
      t.orders.map (·.id) :=
    map_updateWhere fun _ => rfl
  have horder : ((settledBy order payment clock.wall).stamp clock.store).row ∈
      (settledBy order payment clock.wall).writeTo clock.store t.orders := by
    refine mem_updateWhere.mpr ⟨order.row, h.order_stored, ?_⟩
    rw [if_pos (decide_eq_true hid), Order.overwrite_row hfixed]
  rw [← h.callBack_paid clock]
  exact ⟨hsound, h.text, hstored, h.reference_eq, hkeys ▸ h.orders_key, horder, h.order_eq,
    h.uncancelled, h.total_fits⟩

/-! What one callback does. -/

variable {currency : String} {store : Store} {call : Step} {calls : List Step}

/-- A callback about a payment that is paid is answered by the payment, and does nothing. -/
theorem run_paid (h : Reached store.tables reference order payment) (paid : payment.status = .paid)
    (hcall : call.CallsBack reference text) :
    call.OnlyAnswers currency store (.confirmPayment reference text) (.ok (.payment payment)) := by
  obtain ⟨asked, calm⟩ := hcall
  have hreturns : Returns (confirm reference text) (call.context currency) (call.start store)
      payment (call.start store) := h.ledTo.returns_confirm_paid calm paid
  obtain ⟨hanswer, hstore, hevents⟩ :=
    Step.outcome_of_returns currency asked (returns_map.mpr ⟨payment, hreturns, rfl⟩)
  exact ⟨hanswer, hstore, hevents⟩

/-- A callback of which the text is unknown is refused. -/
theorem run_unknown (h : Reached store.tables reference order payment)
    (unsettled : payment.status.isUnsettled) (hcall : call.CallsBack reference text)
    (success : text ≠ "success") (failure : text ≠ "failed") :
    call.OnlyAnswers currency store (.confirmPayment reference text)
      (.error (.invalidPaymentStatus text)) := by
  have hdecided := decideConfirmation_unsettled h.uncancelled unsettled text
  rw [if_neg success, if_neg failure] at hdecided
  exact h.ledTo.run_refused hcall hdecided

/-- A success settles the payment. -/
theorem run_success (h : Reached store.tables reference order payment)
    (unsettled : payment.status.isUnsettled) (hcall : call.CallsBack reference "success") :
    (call.run currency store).answer = call.answerOf (.confirmPayment reference "success")
        (.ok (.payment (payment.answered .paid call.clock))) ∧
      (call.run currency store).store.tables = store.tables.settlePayment call.clock payment := by
  rw [← h.callBack_paid call.clock]
  exact h.ledTo.run_decided hcall (decideConfirmation_unsettled h.uncancelled unsettled _)

theorem run_failure (h : Reached store.tables reference order payment)
    (unsettled : payment.status.isUnsettled) (hcall : call.CallsBack reference "failed") :
    (call.run currency store).store.tables = store.tables.failPayment call.clock payment := by
  rw [← h.callBack_failed call.clock]
  exact (h.ledTo.run_decided hcall (decideConfirmation_unsettled h.uncancelled unsettled _)).2

/-! What callbacks do one after the other. -/

/-- Nothing that is said of a payment that is paid changes anything. -/
theorem storeAfter_paid (h : Reached store.tables reference order payment)
    (paid : payment.status = .paid)
    (hcalls : ∀ call ∈ calls, ∃ text, call.CallsBack reference text) :
    storeAfter currency calls store = store := by
  refine storeAfter_induction (I := fun after => after = store) rfl
    fun call hcall after hafter => ?_
  obtain ⟨text, hcall⟩ := hcalls call hcall
  subst hafter
  exact (h.run_paid paid hcall).unchanged

/-- As long as no success is reported, the last failure tells what has become of the payment. -/
theorem storeAfter_unsettled (h : Reached store.tables reference order payment)
    (currency : String) (unsettled : payment.status.isUnsettled)
    (hcalls : ∀ call ∈ calls, ∃ text, call.CallsBack reference text)
    (silent : Step.firstSuccess calls = none) :
    (storeAfter currency calls store).tables =
        store.tables.failedBy (Step.lastFailure calls) payment ∧
      Reached (storeAfter currency calls store).tables reference order
        (payment.failedBy (Step.lastFailure calls)) := by
  -- From the end: the last callback meets the payment as the last failure before it left it, which
  -- is still unsettled and still has its reference.
  induction calls using List.reverseRecOn with
  | nil => exact ⟨rfl, h⟩
  | append_singleton calls call ih =>
    obtain ⟨hearlier, hlast⟩ := List.forall_mem_append.mp hcalls
    obtain ⟨text, hcall⟩ := List.forall_mem_singleton.mp hlast
    obtain ⟨hsilent, hsuccess⟩ := Step.firstSuccess_snoc_eq_none.mp silent
    obtain ⟨htables, hreached⟩ := ih hearlier hsilent
    have hunsettled := isUnsettled_failedBy unsettled (Step.lastFailure calls)
    rw [storeAfter_snoc, Step.lastFailure_snoc]
    by_cases hfailed : text = "failed"
    · subst hfailed
      have hrun : (call.run currency (storeAfter currency calls store)).store.tables =
          store.tables.failPayment call.clock payment := by
        rw [hreached.run_failure hunsettled hcall, htables, failPayment_of_failedBy,
          Tables.failPayment_failedBy]
      have hnext := hreached.failed call.clock
      rw [answered_failed_failedBy, failPayment_of_failedBy, htables,
        Tables.failPayment_failedBy] at hnext
      rw [if_pos (hcall.reports_iff.mpr rfl), hrun]
      exact ⟨rfl, hnext⟩
    · have hunknown : text ≠ "success" := mt hcall.reports_iff.mpr hsuccess
      rw [(hreached.run_unknown hunsettled hcall hunknown hfailed).unchanged,
        if_neg (mt hcall.reports_iff.mp hfailed)]
      exact ⟨htables, hreached⟩

/-- The first success settles the payment, whatever is reported before it and after it. -/
theorem storeAfter_settled {first : Step} (h : Reached store.tables reference order payment)
    (currency : String) (unsettled : payment.status.isUnsettled)
    (hcalls : ∀ call ∈ calls, ∃ text, call.CallsBack reference text)
    (success : Step.firstSuccess calls = some first) :
    (storeAfter currency calls store).tables = store.tables.settlePayment first.clock payment ∧
      ∃ settled, Reached (storeAfter currency calls store).tables reference settled
        (payment.answered .paid first.clock) := by
  obtain ⟨hreports, before, after, rfl, hsilent⟩ := List.find?_eq_some_iff_append.mp success
  obtain ⟨hbefore, hrest⟩ := List.forall_mem_append.mp hcalls
  obtain ⟨hfirst, hafter⟩ := List.forall_mem_cons.mp hrest
  obtain ⟨text, hcall⟩ := hfirst
  obtain rfl : text = "success" := hcall.reports_iff.mp hreports
  have hnone : Step.firstSuccess before = none := by
    simpa [Step.firstSuccess] using hsilent
  obtain ⟨htables, hreached⟩ := h.storeAfter_unsettled currency unsettled hbefore hnone
  have hunsettled := isUnsettled_failedBy unsettled (Step.lastFailure before)
  have hrun : (first.run currency (storeAfter currency before store)).store.tables =
      store.tables.settlePayment first.clock payment := by
    rw [(hreached.run_success hunsettled hcall).2, htables, settlePayment_of_failedBy,
      Tables.settlePayment_failedBy]
  have hnext := hreached.settled first.clock
  rw [answered_paid_failedBy, settlePayment_of_failedBy, htables, Tables.settlePayment_failedBy,
    ← hrun] at hnext
  -- What comes after the first success finds the payment paid.
  have hunchanged : storeAfter currency after
      (first.run currency (storeAfter currency before store)).store =
        (first.run currency (storeAfter currency before store)).store :=
    hnext.storeAfter_paid rfl hafter
  have hlast : storeAfter currency (before ++ first :: after) store =
      (first.run currency (storeAfter currency before store)).store := by
    rw [storeAfter_append]
    exact hunchanged
  rw [hlast]
  exact ⟨hrun, _, hnext⟩

end Reached

/-- How a payment takes callbacks that come one after the other, and one more that comes after
them. -/
structure Tolerates (currency : String) (store : Store) (reference : String) (calls : List Step)
    (payment : Payment) : Prop where
  settled : ∀ first, Step.firstSuccess calls = some first →
    (storeAfter currency calls store).tables = store.tables.settlePayment first.clock payment
  failed : Step.firstSuccess calls = none → ∀ last, Step.lastFailure calls = some last →
    (storeAfter currency calls store).tables = store.tables.failPayment last.clock payment
  unheard : Step.firstSuccess calls = none → Step.lastFailure calls = none →
    (storeAfter currency calls store).tables = store.tables
  /-- Before a success, other texts than those for a success and a failure are refused. -/
  unknown : ∀ (call : Step) (text : String), call.CallsBack reference text →
    Step.firstSuccess calls = none →
    text ≠ "success" → text ≠ "failed" →
      call.OnlyAnswers currency (storeAfter currency calls store) (.confirmPayment reference text)
        (.error (.invalidPaymentStatus text))
  /-- The first success answers the payment as it settles it. -/
  first : ∀ call : Step, call.CallsBack reference "success" → Step.firstSuccess calls = none →
    (call.run currency (storeAfter currency calls store)).answer =
      call.answerOf (.confirmPayment reference "success")
        (.ok (.payment (payment.answered .paid call.clock)))
  /-- Whatever comes after it answers the same payment again. -/
  repeated : ∀ (call : Step) (text : String), call.CallsBack reference text →
    ∀ first, Step.firstSuccess calls = some first →
      call.OnlyAnswers currency (storeAfter currency calls store) (.confirmPayment reference text)
        (.ok (.payment (payment.answered .paid first.clock)))

theorem Reached.tolerates {reference : String} {order : Order} {payment : Payment} {store : Store}
    {calls : List Step} (h : Reached store.tables reference order payment) (currency : String)
    (unsettled : payment.status.isUnsettled)
    (hcalls : ∀ call ∈ calls, ∃ text, call.CallsBack reference text) :
    payment.Tolerates currency store reference calls := by
  have hstill := isUnsettled_failedBy unsettled (Step.lastFailure calls)
  constructor
  case settled =>
    intro first hfirst
    exact (h.storeAfter_settled currency unsettled hcalls hfirst).1
  case failed =>
    intro hsilent last hlast
    rw [(h.storeAfter_unsettled currency unsettled hcalls hsilent).1, hlast]
    rfl
  case unheard =>
    intro hsilent hnone
    rw [(h.storeAfter_unsettled currency unsettled hcalls hsilent).1, hnone]
    rfl
  case unknown =>
    intro call text hcall hsilent hsuccess hfailure
    obtain ⟨-, hreached⟩ := h.storeAfter_unsettled currency unsettled hcalls hsilent
    exact hreached.run_unknown hstill hcall hsuccess hfailure
  case first =>
    intro call hcall hsilent
    obtain ⟨-, hreached⟩ := h.storeAfter_unsettled currency unsettled hcalls hsilent
    rw [(hreached.run_success hstill hcall).1, answered_paid_failedBy]
  case repeated =>
    intro call text hcall first hfirst
    obtain ⟨-, settled, hreached⟩ :=
      h.storeAfter_settled currency unsettled hcalls hfirst
    exact hreached.run_paid rfl hcall

/-- Every payment that a run leaves behind is reached by its reference. -/
theorem Reached.of_storeAfter {currency : String} {steps : List Step} {start : Store}
    {reference : String} {order : Order} {payment : Payment}
    (served : ∀ step ∈ steps, step.IsServed) (constrained : start.tables.Constrained)
    (orders : start.tables.orders = [])
    (stored : payment.row ∈ (storeAfter currency steps start).tables.payments)
    (reference_eq : payment.gatewayId = some reference)
    (order_stored : order.row ∈ (storeAfter currency steps start).tables.orders)
    (order_eq : payment.orderId = order.id) (uncancelled : order.status ≠ .cancelled) :
    Reached (storeAfter currency steps start).tables reference order payment := by
  have hledTo : LedTo (storeAfter currency steps start).tables reference order payment :=
    .of_storeAfter served constrained orders stored reference_eq order_stored order_eq
  exact ⟨hledTo.sound, hledTo.text, stored, reference_eq, hledTo.orders_key, order_stored, order_eq,
    uncancelled, hledTo.total_fits⟩

end Payment

/-- Callbacks of the gateway may come twice and out of order. In the store after a run that began
without orders, a payment is pending or has failed, has a reference and belongs to an order that is
not cancelled. After any callbacks with that reference it is paid, with its order, since the first
success; without a success it has failed if a failure was reported, and is as it was if none was.
Nothing else in the store changes. A text that reports neither is refused before the first success;
after it every callback is answered by the same payment, whatever it reports, and does nothing. -/
theorem callbacks_tolerated (currency : String) (steps : List Step) (start : Store)
    (served : ∀ step ∈ steps, step.IsServed) (constrained : start.tables.Constrained)
    (orders : start.tables.orders = []) :
    ∀ row ∈ (storeAfter currency steps start).tables.payments,
      row.status = word PaymentStatus.pending ∨ row.status = word PaymentStatus.failed →
      ∀ reference, row.gatewayId = some reference →
      ∀ owner ∈ (storeAfter currency steps start).tables.orders, owner.id = row.orderId →
      owner.status ≠ word OrderStatus.cancelled →
      ∃ payment : Payment, row = payment.row ∧
        ∀ calls : List Step, (∀ call ∈ calls, ∃ text, call.CallsBack reference text) →
          payment.Tolerates currency (storeAfter currency steps start) reference calls := by
  have hlawful := (ready_storeAfter currency served constrained orders).lawful
  intro row hrow hstatus reference hreference owner howner hid hcancelled
  obtain ⟨payment, rfl⟩ := hlawful.settled.sound.read row hrow
  obtain ⟨order, rfl⟩ := hlawful.coherent.orders_read owner howner
  have hreached :
      Payment.Reached (storeAfter currency steps start).tables reference order payment :=
    .of_storeAfter served constrained orders hrow hreference howner hid.symm
      (mt OrderStatus.word_inj.mpr hcancelled)
  have hunsettled : payment.status.isUnsettled := by
    rcases hstatus with hpending | hfailed
    · rw [PaymentStatus.word_inj.mp hpending]
      rfl
    · rw [PaymentStatus.word_inj.mp hfailed]
      rfl
  exact ⟨payment, rfl, fun calls hcalls => hreached.tolerates currency hunsettled hcalls⟩

/-- A purchase that waits for its payment. -/
def Step.awaitingPayment : List Step :=
  [ofCall (.placeDirect 7 6 .razorpay [⟨3, 2⟩]), ofCall (.createIntent 7 1 .razorpay)]

/-- A callback for that payment at the given second. -/
def Step.calledBackAt (second : Int) (text : String) : Step :=
  ofCallAt second (.confirmPayment "razorpay_order_00000000000040008000000000000001" text)

/-- The gateway reports a failure, a success, another failure and the success once more. -/
def Step.contradictory : List Step :=
  [calledBackAt 10 "failed", calledBackAt 20 "success", calledBackAt 30 "failed",
    calledBackAt 40 "success"]

theorem callbacks_contradictory :
    ∃ payment : Payment,
      payment.row ∈ (storeAfter "INR" Step.awaitingPayment .stocked).tables.payments ∧
      payment.Tolerates "INR" (storeAfter "INR" Step.awaitingPayment .stocked)
        "razorpay_order_00000000000040008000000000000001" Step.contradictory ∧
      ((storeAfter "INR" (Step.awaitingPayment ++ Step.contradictory) .stocked).tables.payments.map
        fun row => (row.status, row.paidAt)) = [("paid", some ⟨20, 0⟩)] := by
  have hserved : ∀ step ∈ Step.awaitingPayment, step.IsServed := by
    simp [Step.awaitingPayment, Step.isServed_ofCall]
  have hrow : ∃ row ∈ (storeAfter "INR" Step.awaitingPayment .stocked).tables.payments,
      row.status = word PaymentStatus.pending ∧
      row.gatewayId = some "razorpay_order_00000000000040008000000000000001" ∧
      ∃ owner ∈ (storeAfter "INR" Step.awaitingPayment .stocked).tables.orders,
        owner.id = row.orderId ∧ owner.status ≠ word OrderStatus.cancelled := by
    decide +kernel
  obtain ⟨row, hstored, hpending, hreference, owner, howner, hid, hopen⟩ := hrow
  have hcalls : ∀ call ∈ Step.contradictory, ∃ text,
      call.CallsBack "razorpay_order_00000000000040008000000000000001" text := by
    have hcall (second : Int) (text : String) : ∃ other, (Step.calledBackAt second text).CallsBack
        "razorpay_order_00000000000040008000000000000001" other := ⟨text, rfl, rfl⟩
    simp only [Step.contradictory, List.forall_mem_cons]
    exact ⟨hcall _ _, hcall _ _, hcall _ _, hcall _ _, List.forall_mem_nil _⟩
  obtain ⟨payment, rfl, htolerates⟩ := callbacks_tolerated "INR" Step.awaitingPayment .stocked
    hserved Store.constrained_stocked rfl row hstored (.inl hpending) _ hreference owner howner hid
    hopen
  exact ⟨payment, hstored, htolerates _ hcalls, by decide +kernel⟩

end Storefront
