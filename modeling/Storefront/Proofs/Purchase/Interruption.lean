import Storefront.Proofs.Purchase.Agreement
import Storefront.Proofs.Purchase.Backing

/-!
A user's cancellation that meets a fault. Nothing comes of it, or it does what it does without the
fault, or the cancellation stands and only the refund that was due is missed. What was missed is
made up for by a refund of the order.
-/

namespace Storefront

open Session

/-- An item without the time of its last change. -/
def ItemRow.undated (row : ItemRow) : ItemRow :=
  { row with updatedAt := ⟨0, 0⟩ }

/-- The tables without the times of the last changes of products, orders, items and payments. -/
def Tables.undated (t : Tables) : Tables :=
  { t with
    products := t.products.map Product.unmarked
    orders := t.orders.map OrderRow.unmarked
    orderItems := t.orderItems.map ItemRow.undated
    payments := t.payments.map PaymentRow.unmarked }

/-- The tables once the payment of an order is refunded, which the order says too. -/
def Tables.withRefund (id : OrderId) (now : Instant) (t : Tables) : Tables :=
  { t with
    orders := updateWhere (fun row => row.id = id)
      (fun row => { row with paymentStatus := word PaymentStatus.refunded, updatedAt := now })
        t.orders
    payments := updateWhere (fun row => row.orderId = id)
      (fun row => { row with status := word PaymentStatus.refunded, updatedAt := now }) t.payments }

/-- An error is all that comes of the step. -/
structure Step.Undone (currency : String) (step : Step) (store : Store) : Prop where
  answered : (step.run currency store).answer.isError
  unchanged : (step.run currency store).store.tables = store.tables
  silent : (step.run currency store).events = []

/-- The step does what it does when no statement of it fails. -/
structure Step.Unaffected (currency : String) (step : Step) (store : Store) : Prop where
  answer_eq : (step.run currency store).answer = (step.calm.run currency store).answer
  tables_eq : (step.run currency store).store.tables = (step.calm.run currency store).store.tables
  events_eq : (step.run currency store).events = (step.calm.run currency store).events

/-- The store has a paid payment of the order. -/
def Store.HasPaid (store : Store) (id : OrderId) : Prop :=
  ∃ payment ∈ store.tables.payments,
    payment.orderId = id ∧ payment.status = word PaymentStatus.paid

/-- The step cancels the order and misses the refund that is due: the payment is still paid, and the
order, as it is stored and answered, still says so. That apart it does what it does when no
statement of it fails, and a refund of the order makes up for what it missed. -/
structure Step.MissesRefund (currency : String) (step : Step) (store : Store) (user : UserId)
    (id : OrderId) : Prop where
  paid_before : store.HasPaid id
  paid_after : (step.run currency store).store.HasPaid id
  cancelled : ∃ order : Order, order.id = id ∧ order.paymentStatus = .paid ∧
    order.row ∈ (step.run currency store).store.tables.orders ∧
    (step.run currency store).answer = step.answerOf (.cancelOrder user id) (.ok (.order order)) ∧
    (step.run currency store).events = [.orderCancelled order, .refundFailed id .internal]
  missed : (step.calm.run currency store).store.tables =
    (step.run currency store).store.tables.withRefund id step.clock.store
  recovered : ∀ later : Step, later.operation? = some (.refundPayment id) → later.fault = none →
    (later.run currency (step.run currency store).store).answer.isError = false ∧
      (later.run currency (step.run currency store).store).store.tables.undated =
        (step.calm.run currency store).store.tables.undated

variable {context : Context} {p p' : Progress}

/-- When a refund was made does not matter but for its time. -/
theorem Tables.undated_withRefund (id : OrderId) (now now' : Instant) (t : Tables) :
    (t.withRefund id now).undated = (t.withRefund id now').undated := by
  have horders (now : Instant) : (t.withRefund id now).orders.map OrderRow.unmarked =
      updateWhere (fun row => row.id = id)
        (fun row => { row with paymentStatus := word PaymentStatus.refunded })
        (t.orders.map OrderRow.unmarked) := by
    apply map_updateWhere_comm <;> exact fun _ => rfl
  have hpayments (now : Instant) : (t.withRefund id now).payments.map PaymentRow.unmarked =
      updateWhere (fun row => row.orderId = id)
        (fun row => { row with status := word PaymentStatus.refunded })
        (t.payments.map PaymentRow.unmarked) := by
    apply map_updateWhere_comm <;> exact fun _ => rfl
  rw [undated, horders, hpayments, undated, horders, hpayments]
  rfl

/-- What a refund makes of the tables. -/
theorem Payment.Refunded.eq_withRefund {clock : Clock} {id : OrderId} {t t' : Tables}
    {order : Order}
    {payment : Payment} {stored : PaymentRow} (coherent : t.Coherent)
    (sound : PaymentRow.Sound t.payments)
    (h : Refunded clock id t order payment stored t') : t' = t.withRefund id clock.store := by
  obtain ⟨horder, hid⟩ := mem_of_find?_key h.order_found
  obtain rfl : order.id = id := hid
  have horders : Order.writeTo { order with paymentStatus := .refunded } clock.store t.orders =
      (t.withRefund order.id clock.store).orders :=
    Order.writeTo_eq coherent.orders_key horder rfl rfl
  have hpayments : Payment.writeTo clock.store (some { payment with status := .refunded })
      t.payments = (t.withRefund order.id clock.store).payments :=
    Payment.writeTo_found sound h.payment_found rfl rfl
  rw [h.changed, Tables.amend, horders, hpayments]
  rfl

namespace Order

/-- A missed refund is announced after the cancellation, which stands. -/
theorem returns_cancel_of_missed {user : UserId} {id : OrderId} {cancelled : Order} {cause : Error}
    {middle last : Progress}
    (h : Returns (cancelPending user id) context p (cancelled, true) middle)
    (missed : (Payment.refundForOrder id).exec context
      { middle with events := middle.events ++ [.orderCancelled cancelled] } =
        (.error cause, last)) :
    Returns (cancel user id) context p cancelled
      { last with events := last.events ++ [.refundFailed id cause] } := by
  refine returns_bind.mpr ⟨_, middle, h, returns_bind.mpr ⟨⟨⟩, _, returns_announce.mpr rfl, ?_⟩⟩
  refine returns_bind.mpr ⟨.error cause, last, returns_attempt.mpr missed, ?_⟩
  exact returns_bind.mpr ⟨⟨⟩, _, returns_announce.mpr rfl, returns_pure.mpr ⟨rfl, rfl⟩⟩

/-- A fault makes a user's cancellation fail, or it makes the refund fail that follows, or it leaves
no trace. -/
theorem exec_cancel_calm (user : UserId) (id : OrderId) (context : Context) (p : Progress) :
    (∃ after, (cancel user id).exec context p = (.error .internal, after)) ∨
      (cancel user id).exec context p.calm = (((cancel user id).exec context p).1,
        ((cancel user id).exec context p).2.calm) ∨
      ∃ (cancelled : Order) (middle last : Progress),
        Returns (cancelPending user id) context p (cancelled, true) middle ∧
          last.tables = middle.tables ∧
          last.events = middle.events ++ [.orderCancelled cancelled] ∧
          Returns (cancel user id) context p cancelled
            { last with events := last.events ++ [.refundFailed id .internal] } := by
  rcases exec_calm (cancelPending user id) context p with ⟨after, hfault⟩ | hcalm
  · left
    exact ⟨after, by rw [cancel, exec_bind, hfault]⟩
  rcases hexec : (cancelPending user id).exec context p with ⟨cause | ⟨cancelled, due⟩, middle⟩
  · right; left
    rw [hexec] at hcalm
    simp only [cancel, exec_bind, hexec, hcalm]
  · have hpending : Returns (cancelPending user id) context p (cancelled, due) middle := hexec
    have hpending' := hpending.without_fault
    cases due with
    | false =>
      right; left
      have hreturns := returns_cancel_of_not_due hpending Bool.false_ne_true
      exact hreturns.exec_calm_eq (returns_cancel_of_not_due hpending' Bool.false_ne_true)
    | true =>
      let announced : Progress :=
        { middle with events := middle.events ++ [.orderCancelled cancelled] }
      rcases exec_calm (Payment.refundForOrder id) context announced with ⟨last, hfault⟩ | hrefund
      · right; right
        obtain ⟨htables, hevents⟩ := Payment.atomic_refundForOrder id _ _ _ last hfault
        exact ⟨cancelled, middle, last, hpending, htables, hevents,
          returns_cancel_of_missed hpending hfault⟩
      · right; left
        rcases hexec : (Payment.refundForOrder id).exec context announced with
          ⟨cause | refunded, last⟩
        · rw [hexec] at hrefund
          have hreturns := returns_cancel_of_missed hpending hexec
          exact hreturns.exec_calm_eq (returns_cancel_of_missed hpending' hrefund)
        · rw [hexec] at hrefund
          have hreturns := returns_cancel_of_due hpending rfl hexec
          exact hreturns.exec_calm_eq (returns_cancel_of_due hpending' rfl hrefund)

/-- The refund that a cancellation leaves to be made is made if no statement of it fails. -/
theorem CalledOff.exists_refund {clock : Clock} {user : UserId} {id : OrderId} {t : Tables}
    {order : Order} {items : List OrderItem} {payment : Option Payment} (calm : p.fault = none)
    (lawful : t.Lawful) (h : CalledOff clock user id t order items payment p.tables)
    (due : order.refundDue payment) :
    ∃ refunded last, Returns (Payment.refundForOrder id) context p refunded last ∧
      last.tables = p.tables.withRefund id context.clock.store := by
  obtain ⟨refunded, last, hrefund⟩ : Succeeds (Payment.refundForOrder id) context p :=
    h.succeeds_refund calm lawful.coherent lawful.settled due
  obtain ⟨_, given, hback, -, rfl⟩ := returns_announced.mp hrefund
  obtain ⟨found, paid, stored, hrefunded, -⟩ := Payment.refunded_of_returns calm hback
  have hcoherent : p.tables.Coherent := lawful.coherent.amended (h.amended lawful.coherent)
  have hsound : PaymentRow.Sound p.tables.payments := by
    rw [h.payments_of_refundDue lawful.coherent due]
    exact lawful.settled.sound
  exact ⟨refunded, _, hrefund, hrefunded.eq_withRefund hcoherent hsound⟩

end Order

section Steps

variable {currency : String} {step : Step} {store : Store} {purchase : Purchase} {user : UserId}
  {id : OrderId}

theorem Step.undone_of_exec {after : Progress}
    (asked : step.operation? = some (.cancelOrder user id))
    (h : (Order.cancel user id).exec (step.context currency) (step.start store) =
      (.error .internal, after)) : step.Undone currency store := by
  obtain ⟨-, -, -, herror⟩ := run_of_operation currency store asked
  have hanswer : (step.run currency store).answer.isError := by
    refine herror.mpr ⟨.internal, ?_⟩
    simp only [Operation.perform, exec_map, h]
  obtain ⟨htables, hevents⟩ :=
    unchanged_of_atomic asked ((Order.atomic_cancel user id).map _) hanswer
  exact ⟨hanswer, htables, hevents⟩

theorem Step.unaffected_of_exec {operation : Operation} (asked : step.operation? = some operation)
    (h : operation.perform.exec (step.context currency) (step.start store).calm =
      ((operation.perform.exec (step.context currency) (step.start store)).1,
        (operation.perform.exec (step.context currency) (step.start store)).2.calm)) :
    step.Unaffected currency store := by
  have asked' : step.calm.operation? = some operation := asked
  obtain ⟨hstore, hevents, -⟩ := run_of_operation currency store asked
  obtain ⟨hstore', hevents', -⟩ := run_of_operation currency store asked'
  have hexec : operation.perform.exec (step.calm.context currency) (step.calm.start store) = _ := h
  constructor
  · rw [answer_of_operation currency store asked, answer_of_operation currency store asked', hexec]
    rfl
  · rw [hstore, hstore', hexec]
    rfl
  · rw [hevents, hevents', hexec]
    rfl

/-- What comes of a step that cancels an order. -/
theorem Step.run_of_cancel {order : Order} {last : Progress}
    (asked : step.operation? = some (.cancelOrder user id))
    (h : Returns (Order.cancel user id) (step.context currency) (step.start store) order last) :
    (step.run currency store).answer = step.answerOf (.cancelOrder user id) (.ok (.order order)) ∧
      (step.run currency store).store.tables = last.tables ∧
      (step.run currency store).events = last.events := by
  obtain ⟨hanswer, hstore, hevents⟩ :=
    outcome_of_returns currency asked (returns_map.mpr ⟨order, h, rfl⟩)
  exact ⟨hanswer, congrArg (·.tables) hstore, hevents⟩

theorem Purchase.StoredIn.missesRefund {cancelled : Order} {middle last : Progress}
    (h : purchase.StoredIn store.tables) (ready : store.tables.Ready) (backed : purchase.Backed)
    (asked : step.operation? = some (.cancelOrder purchase.order.userId purchase.order.id))
    (pending : Returns (Order.cancelPending purchase.order.userId purchase.order.id)
      (step.context currency) (step.start store) (cancelled, true) middle)
    (htables : last.tables = middle.tables)
    (hevents : last.events = middle.events ++ [.orderCancelled cancelled])
    (missed : Returns (Order.cancel purchase.order.userId purchase.order.id)
      (step.context currency) (step.start store) cancelled
      { last with events := last.events ++ [.refundFailed purchase.order.id .internal] }) :
    step.MissesRefund currency store purchase.order.userId purchase.order.id := by
  have pending' := pending.without_fault
  obtain ⟨order, items, payment, hcalled, hanswered⟩ := Order.calledOff_of_returns rfl pending'
  obtain rfl := h.order_eq hcalled.order_found
  obtain rfl := h.payment_eq hcalled.payment_found
  obtain ⟨rfl, hdue⟩ := Prod.mk.inj hanswered
  obtain ⟨hanswer, hrun, hannounced⟩ := Step.run_of_cancel asked missed
  have hcalled : Order.CalledOff step.clock purchase.order.userId purchase.order.id store.tables
      purchase.order items purchase.payment (step.run currency store).store.tables := by
    rw [hrun]
    exact htables ▸ hcalled
  have hdue : purchase.order.refundDue purchase.payment := hdue.symm
  obtain ⟨-, paid, hpaid, hstatus⟩ := Order.exists_paid_of_refundDue hdue
  obtain ⟨hrow, howner⟩ := h.mem_payments.mp hpaid
  have hbefore : store.HasPaid purchase.order.id :=
    ⟨paid.row, hrow, howner, congrArg word hstatus⟩
  have hcalm : (step.calm.run currency store).store.tables =
      (step.run currency store).store.tables.withRefund purchase.order.id step.clock.store := by
    let announced : Progress :=
      { middle.calm with events := middle.calm.events ++ [.orderCancelled
        ((purchase.order.calledOff purchase.payment).1.stamp step.clock.store)] }
    have hleft : announced.tables = (step.run currency store).store.tables := by
      rw [hrun]
      exact htables.symm
    obtain ⟨refunded, after, hrefund, hrefunded⟩ : ∃ refunded last,
        Returns (Payment.refundForOrder purchase.order.id) (step.context currency) announced
          refunded
            last ∧ last.tables = announced.tables.withRefund purchase.order.id step.clock.store :=
      Order.CalledOff.exists_refund rfl ready.lawful (hleft ▸ hcalled) hdue
    have asked' : step.calm.operation? =
        some (.cancelOrder purchase.order.userId purchase.order.id) := asked
    have hcancel : Returns (Order.cancel purchase.order.userId purchase.order.id)
        (step.calm.context currency) (step.calm.start store) _ after :=
      Order.returns_cancel_of_due pending' rfl hrefund
    obtain ⟨-, hcalm, -⟩ := Step.run_of_cancel asked' hcancel
    rw [hcalm, hrefunded, hleft]
  refine ⟨hbefore, ?_, ⟨_, ?_, ?_, ?_, hanswer, ?_⟩, hcalm, ?_⟩
  · unfold Store.HasPaid
    rw [hcalled.payments_of_refundDue ready.lawful.coherent hdue]
    exact hbefore
  · exact Order.id_of_fixed (Order.fixed_calledOff purchase.order purchase.payment)
  · rw [Order.calledOff, if_pos hdue]
    exact (backed.paid paid hpaid hstatus).marked
  · exact (mem_of_find?_key (hcalled.amended ready.lawful.coherent).found).1
  · have hquiet : middle.events = [] := pending.events_eq
    rw [hannounced, hevents, hquiet]
    rfl
  · intro later hasked hfault
    obtain ⟨refunded, last, hrefund, hrefunded⟩ : ∃ refunded last,
        Returns (Payment.refundForOrder purchase.order.id) (later.context currency)
            (later.start (step.run currency store).store) refunded last ∧
          last.tables = (step.run currency store).store.tables.withRefund purchase.order.id
            later.clock.store :=
      hcalled.exists_refund hfault ready.lawful hdue
    obtain ⟨hanswer, hlater⟩ := Step.run_of_returns currency hasked
      (returns_map.mpr ⟨refunded, hrefund, rfl⟩)
    rw [hlater, hrefunded, hcalm]
    exact ⟨hanswer, Tables.undated_withRefund _ _ _ _⟩

/-- A user's cancellation of a pending purchase meets its fault in one of three ways. -/
theorem Purchase.StoredIn.cancel_cases (h : purchase.StoredIn store.tables)
    (ready : store.tables.Ready) (backed : purchase.Backed)
    (asked : step.operation? = some (.cancelOrder purchase.order.userId purchase.order.id)) :
    step.Undone currency store ∨ step.Unaffected currency store ∨
      step.MissesRefund currency store purchase.order.userId purchase.order.id := by
  rcases Order.exec_cancel_calm purchase.order.userId purchase.order.id (step.context currency)
      (step.start store) with
    ⟨after, hfails⟩ | hcalm | ⟨cancelled, middle, last, hpending, htables, hevents, hmissed⟩
  · exact .inl (Step.undone_of_exec asked hfails)
  · refine .inr (.inl (Step.unaffected_of_exec asked ?_))
    simp only [Operation.perform, exec_map, hcalm]
    rcases (Order.cancel purchase.order.userId purchase.order.id).exec (step.context currency)
      (step.start store) with ⟨_ | order, after⟩
    · rfl
    · rfl
  · exact .inr (.inr (h.missesRefund ready backed asked hpending htables hevents hmissed))

end Steps

/-- Wherever a run that began without orders has come to, a pending order can be cancelled by its
user, and a fault then has one of three outcomes: an error is all that comes of the step, or the
step does what it does without the fault, or the order is cancelled and only its refund is missed,
for which a refund of the order makes up. -/
theorem cancellation_interrupted (currency : String) (steps : List Step) (start : Store)
    (served : ∀ step ∈ steps, step.IsServed) (constrained : start.tables.Constrained)
    (orders : start.tables.orders = []) :
    ∀ order ∈ (storeAfter currency steps start).tables.orders,
      order.status = word OrderStatus.pending →
        ∀ step : Step, step.operation? = some (.cancelOrder order.userId order.id) →
          (step.calm.run currency (storeAfter currency steps start)).answer.isError = false ∧
            (step.Undone currency (storeAfter currency steps start) ∨
              step.Unaffected currency (storeAfter currency steps start) ∨
              step.MissesRefund currency (storeAfter currency steps start) order.userId
                order.id) := by
  have hready := ready_storeAfter currency served constrained orders
  intro row hrow hpending step hasked
  obtain ⟨purchase, rfl, hstored⟩ := Purchase.StoredIn.exists_of_mem hready.lawful hrow
  have hbacked : purchase.Backed := Purchase.invariant_storeAfter (fun _ => .of_placed)
    (fun _ _ _ => .move) served orders (constrained.orderItems_eq_nil orders)
    (constrained.payments_eq_nil orders) purchase hstored
  obtain ⟨hcalm, -⟩ :
      purchase.CancelledOver currency [step.calm] (storeAfter currency steps start) :=
    hstored.cancelledOver_user hready (OrderStatus.word_inj.mp hpending) hasked rfl
  exact ⟨hcalm _ List.mem_cons_self, hstored.cancel_cases hready hbacked hasked⟩

/-- A cancellation of an order that is paid for, with a fault in the statement that refunds it. -/
def Step.refundInterrupted : Step :=
  { ofCall (.cancelOrder 7 1) with fault := some ⟨.update, .payments, 1⟩ }

theorem cancellation_refundInterrupted :
    Step.refundInterrupted.MissesRefund "INR" (storeAfter "INR" Step.paidFor .stocked) 7 1 := by
  have hserved : ∀ step ∈ Step.paidFor, step.IsServed := by
    simp [Step.paidFor, Step.isServed_ofCall]
  obtain ⟨order, horder, hpending, huser, hid⟩ :
      ∃ order ∈ (storeAfter "INR" Step.paidFor .stocked).tables.orders,
        order.status = word OrderStatus.pending ∧ order.userId = 7 ∧ order.id = 1 := by
    decide +kernel
  have hasked : Step.refundInterrupted.operation? = some (.cancelOrder order.userId order.id) := by
    rw [huser, hid]
    rfl
  obtain ⟨-, houtcome⟩ := cancellation_interrupted "INR" Step.paidFor .stocked hserved
    Store.constrained_stocked rfl order horder hpending Step.refundInterrupted hasked
  rw [huser, hid] at houtcome
  rcases houtcome with hundone | hunaffected | hmissed
  · exact absurd hundone.answered (by decide +kernel)
  · exact absurd hunaffected.events_eq (by decide +kernel)
  · exact hmissed

end Storefront
