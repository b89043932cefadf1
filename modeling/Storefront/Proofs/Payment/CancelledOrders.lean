import Storefront.Proofs.Payment.Refunds

/-!
What becomes of the money of cancelled orders over a run. No payment of a cancelled order is pending
or has failed, and one that is paid waits for the refund that a cancellation could not make.
-/

namespace Storefront

open Session

variable {currency : String} {step : Step} {store : Store} {id : OrderId}

/-- The step is a refund of the order, and it succeeds. -/
def Step.Refunds (currency : String) (step : Step) (store : Store) (id : OrderId) : Prop :=
  step.operation? = some (.refundPayment id) ∧ (step.run currency store).answer.isError = false

/-- The step is a user's cancellation of the order, and it announces that the refund failed. -/
def Step.FailsToRefund (currency : String) (step : Step) (store : Store) (id : OrderId) : Prop :=
  (∃ user, step.operation? = some (.cancelOrder user id)) ∧
    ∃ cause, .refundFailed id cause ∈ (step.run currency store).events

/-- Of the steps of a run one failed to refund the order, and none after it refunded the order. -/
def RefundOwed (currency : String) (start : Store) (steps : List Step) (id : OrderId) : Prop :=
  ∃ before step after, steps = before ++ step :: after ∧
    step.FailsToRefund currency (storeAfter currency before start) id ∧
    ∀ between later rest, after = between ++ later :: rest →
      ¬later.Refunds currency (storeAfter currency (before ++ step :: between) start) id

namespace Step

/-- Nothing is left to be refunded after a refund. -/
theorem not_outstanding_of_refunds (settled : store.tables.Settled)
    (h : step.Refunds currency store id) :
    ¬(step.run currency store).store.tables.Outstanding id := by
  obtain ⟨hop, hanswer⟩ := h
  obtain ⟨hstore, -, -, herror⟩ := run_of_operation currency store hop
  rw [hstore]
  rcases hexec : (Operation.refundPayment id).perform.exec (step.context currency)
    (step.start store) with ⟨cause | reply, after⟩
  · rw [herror.mpr ⟨cause, congrArg (·.1) hexec⟩] at hanswer
    cases hanswer
  · have hreturns : Returns (Operation.refundPayment id).perform (step.context currency)
      (step.start store) reply after := hexec
    obtain ⟨answer, hrefund, rfl⟩ := returns_map.mp hreturns
    obtain ⟨order, payment, stored, hrefunded, -⟩ :=
      Payment.refunded_of_returns_refundForOrder hrefund
    exact (hrefunded.closedIn settled).2.not_outstanding

/-- A step that leaves a cancelled order with a paid payment found it so and did not refund it, or
it failed to refund it because of its fault. -/
theorem outstanding (served : step.IsServed) (coherent : store.tables.Coherent)
    (settled : store.tables.Settled)
    (h : (step.run currency store).store.tables.Outstanding id) :
    store.tables.Outstanding id ∧ ¬step.Refunds currency store id ∨
      step.FailsToRefund currency store id ∧ step.fault ≠ none := by
  have hrefunds : ¬step.Refunds currency store id :=
    fun hrefunds => not_outstanding_of_refunds settled hrefunds h
  rcases step.run_effect currency store served with ⟨hsame, -⟩ | ⟨operation, hop, heffect⟩
  · rw [hsame] at h
    exact .inl ⟨h, hrefunds⟩
  · rcases h.of_effect coherent settled heffect with hbefore | ⟨user, cause, rfl, hevent, hfault⟩
    · exact .inl ⟨hbefore, hrefunds⟩
    · exact .inr ⟨⟨⟨user, hop⟩, cause, hevent⟩, hfault⟩

theorem settled (served : step.IsServed) (coherent : store.tables.Coherent)
    (settled : store.tables.Settled) : (step.run currency store).store.tables.Settled := by
  apply step.keeps currency served settled
  intro operation events t' _ heffect
  exact settled.effect coherent heffect

/-- A callback changes neither a cancelled order nor its payment. -/
theorem callback_keeps {order : Order} {reference reported : String} (served : step.IsServed)
    (coherent : store.tables.Coherent) (settled : store.tables.Settled)
    (asked : step.operation? = some (.confirmPayment reference reported))
    (horder : order.row ∈ store.tables.orders) (hcancelled : order.status = .cancelled) :
    (step.run currency store).store.tables.orders.filter (fun row => row.id = order.id) =
        store.tables.orders.filter (fun row => row.id = order.id) ∧
      (step.run currency store).store.tables.payments.filter (fun row => row.orderId = order.id) =
        store.tables.payments.filter (fun row => row.orderId = order.id) := by
  have hne {other : Order} (hother : other.row ∈ store.tables.orders)
      (hopen : other.status ≠ .cancelled) : order.id ≠ other.id := by
    intro hsame
    have heq := Order.row_injective (eq_of_key_eq coherent.orders_key horder hother hsame)
    rw [heq] at hcancelled
    exact hopen hcancelled
  rcases step.run_effect currency store served with ⟨hsame, -⟩ | ⟨operation, hop, heffect⟩
  · rw [hsame]
    exact ⟨rfl, rfl⟩
  · obtain rfl : operation = .confirmPayment reference reported :=
      Option.some.inj (hop.symm.trans asked)
    generalize (step.run currency store).store.tables = t' at heffect ⊢
    generalize (step.run currency store).events = events at heffect
    cases heffect with
    | placed asked => cases asked
    | @paymentConfirmed _ _ other found payment confirmation _ called changes =>
      obtain ⟨hopen, -⟩ := Payment.of_decideConfirmation called.decided changes
      have hother := hne (mem_of_find?_key called.order_found).1 hopen
      cases confirmation with
      | alreadyPaid => exact absurd rfl changes
      | paid =>
        have hamended := called.amended
        obtain ⟨hfollows, -⟩ := called.accounted settled
        rw [hamended.orders_eq, hamended.payments_eq]
        refine ⟨?_, Payment.filter_writeTo settled.sound hfollows hother⟩
        refine filter_updateWhere_eq (fun _ => rfl) fun row _ hrow => decide_eq_false fun hid => ?_
        exact hother ((of_decide_eq_true hrow).symm.trans hid)
      | failed =>
        obtain ⟨hfollows, -, hchanged⟩ := called.failed_eq settled
        rw [hchanged]
        exact ⟨rfl, Payment.filter_writeTo settled.sound hfollows hother⟩

end Step

/-- What stands in a list with one more at its end is that last one, or it stands before it. -/
theorem split_snoc {α : Type} {xs before after : List α} {last x : α}
    (h : xs ++ [last] = before ++ x :: after) :
    xs = before ∧ last = x ∧ after = [] ∨
      ∃ rest, after = rest ++ [last] ∧ xs = before ++ x :: rest := by
  rcases List.eq_nil_or_concat after with rfl | ⟨rest, other, rfl⟩
  · obtain ⟨hinit, hlast⟩ := List.append_inj' h rfl
    exact .inl ⟨hinit, List.singleton_inj.mp hlast, rfl⟩
  · have hsame : xs ++ [last] = (before ++ x :: rest) ++ [other] := by
      rw [h, List.concat_eq_append, List.append_assoc, List.cons_append]
    obtain ⟨hinit, hlast⟩ := List.append_inj' hsame rfl
    obtain rfl := List.singleton_inj.mp hlast
    exact .inr ⟨rest, List.concat_eq_append, hinit⟩

namespace RefundOwed

variable {start : Store} {steps : List Step}

/-- A refund is still owed after a step that does not make it. -/
theorem snoc (h : RefundOwed currency start steps id)
    (hstep : ¬step.Refunds currency (storeAfter currency steps start) id) :
    RefundOwed currency start (steps ++ [step]) id := by
  obtain ⟨before, missed, after, rfl, hmissed, hafter⟩ := h
  refine ⟨before, missed, after ++ [step], by simp, hmissed, fun between later rest hsplit => ?_⟩
  rcases split_snoc hsplit with ⟨rfl, rfl, -⟩ | ⟨rest, -, hinit⟩
  · exact hstep
  · exact hafter between later rest hinit

theorem of_last (h : step.FailsToRefund currency (storeAfter currency steps start) id) :
    RefundOwed currency start (steps ++ [step]) id := by
  refine ⟨steps, step, [], rfl, h, fun between later rest hsplit => ?_⟩
  exact absurd hsplit.symm (by simp)

end RefundOwed

section Runs

variable {start : Store} (orders : start.tables.orders = []) (items : start.tables.orderItems = [])
  (payments : start.tables.payments = [])

include orders items payments

theorem settled_storeAfter (currency : String) {steps : List Step}
    (served : ∀ step ∈ steps, step.IsServed) :
    (storeAfter currency steps start).tables.Coherent ∧
      (storeAfter currency steps start).tables.Settled := by
  refine storeAfter_induction (I := fun store => store.tables.Coherent ∧ store.tables.Settled)
    ⟨.of_empty orders items, .of_empty payments⟩ ?_
  intro step hstep store ⟨hcoherent, hsettled⟩
  exact ⟨Step.coherent currency (served step hstep) hcoherent,
    Step.settled (served step hstep) hcoherent hsettled⟩

/-- What is still paid of a cancelled order is owed by a step of the run, and a fault is to
blame. -/
theorem owed_of_outstanding {steps : List Step} (served : ∀ step ∈ steps, step.IsServed)
    (h : (storeAfter currency steps start).tables.Outstanding id) :
    RefundOwed currency start steps id ∧ ∃ step ∈ steps, step.fault ≠ none := by
  induction steps, served using served_induction with
  | nil =>
    obtain ⟨order, payment, horder, -⟩ := h
    change order.row ∈ start.tables.orders at horder
    rw [orders] at horder
    cases horder
  | snoc steps step hearlier hlast ih =>
    obtain ⟨hcoherent, hsettled⟩ := settled_storeAfter orders items payments currency hearlier
    rw [storeAfter_snoc] at h
    rcases Step.outstanding hlast hcoherent hsettled h with ⟨hbefore, hrefunds⟩ | ⟨hfails, hfault⟩
    · obtain ⟨howed, faulty, hfaulty, hfault⟩ := ih hbefore
      exact ⟨howed.snoc hrefunds, faulty, List.mem_append_left _ hfaulty, hfault⟩
    · exact ⟨.of_last hfails, step, List.mem_append_right _ List.mem_cons_self, hfault⟩

end Runs

/-- Wherever a run that began without orders has come to, the payment of a cancelled order is
neither pending nor failed; it is paid only if a cancellation announced that its refund failed and
no refund succeeded since, hence never in a run without faults; and a callback changes neither of
them. -/
theorem money_of_cancelled_orders (currency : String) (steps : List Step) (start : Store)
    (served : ∀ step ∈ steps, step.IsServed) (orders : start.tables.orders = [])
    (items : start.tables.orderItems = []) (payments : start.tables.payments = []) :
    ∀ order ∈ (storeAfter currency steps start).tables.orders,
      order.status = word OrderStatus.cancelled →
      (∀ payment ∈ (storeAfter currency steps start).tables.payments,
        payment.orderId = order.id →
          payment.status ≠ word PaymentStatus.pending ∧
            payment.status ≠ word PaymentStatus.failed ∧
            (payment.status = word PaymentStatus.paid →
              RefundOwed currency start steps order.id) ∧
            ((∀ step ∈ steps, step.fault = none) →
              payment.status = word PaymentStatus.cancelled ∨
                payment.status = word PaymentStatus.refunded)) ∧
        ∀ (callback : Step) (reference reported : String),
          callback.operation? = some (.confirmPayment reference reported) →
            (callback.run currency (storeAfter currency steps start)).store.tables.orders.filter
                (fun row => row.id = order.id) =
              (storeAfter currency steps start).tables.orders.filter
                (fun row => row.id = order.id) ∧
            (callback.run currency (storeAfter currency steps start)).store.tables.payments.filter
                (fun row => row.orderId = order.id) =
              (storeAfter currency steps start).tables.payments.filter
                (fun row => row.orderId = order.id) := by
  obtain ⟨hcoherent, hsettled⟩ := settled_storeAfter orders items payments currency served
  intro row hrow hstatus
  obtain ⟨order, rfl⟩ := hcoherent.orders_read row hrow
  have hcancelled : order.status = .cancelled := OrderStatus.word_inj.mp hstatus
  constructor
  · intro row hpayment howner
    obtain ⟨payment, rfl⟩ := hsettled.sound.read row hpayment
    have hunsettled := (hsettled.agree order payment hrow hpayment howner).called_off hcancelled
    have hpaid (h : payment.status = .paid) :
        (storeAfter currency steps start).tables.Outstanding order.id :=
      ⟨order, payment, hrow, hpayment, rfl, howner, hcancelled, h⟩
    change word payment.status ≠ _ ∧ word payment.status ≠ _ ∧ (word payment.status = _ → _) ∧
      (_ → word payment.status = _ ∨ word payment.status = _)
    simp only [ne_eq, PaymentStatus.word_inj]
    cases hcurrent : payment.status with
    | pending =>
      rw [hcurrent] at hunsettled
      cases hunsettled
    | failed =>
      rw [hcurrent] at hunsettled
      cases hunsettled
    | paid =>
      obtain ⟨howed, faulty, hfaulty, hfault⟩ :=
        owed_of_outstanding orders items payments served (hpaid hcurrent)
      refine ⟨by decide, by decide, fun _ => howed, fun hcalm => ?_⟩
      exact absurd (hcalm faulty hfaulty) hfault
    | refunded => exact ⟨by decide, by decide, fun h => absurd h (by decide), fun _ => .inr rfl⟩
    | cancelled => exact ⟨by decide, by decide, fun h => absurd h (by decide), fun _ => .inl rfl⟩
  · intro callback reference reported hop
    have hserved : callback.IsServed := by
      intro edit hedit
      rw [Step.operation?, hedit] at hop
      cases hop
    exact callback.callback_keeps hserved hcoherent hsettled hop hrow hcancelled

/-- A purchase that is paid for and cancelled, with a fault in the statement that refunds it. -/
def Step.refundMissed : List Step :=
  [ofCall (.placeDirect 7 6 .razorpay [⟨3, 2⟩]),
    ofCall (.createIntent 7 1 .razorpay),
    ofCall (.confirmPayment "razorpay_order_00000000000040008000000000000001" "success"),
    { ofCall (.cancelOrder 7 1) with fault := some ⟨.update, .payments, 1⟩ }]

theorem money_refundMissed :
    (storeAfter "INR" Step.refundMissed .stocked).tables.payments.map (·.status) = ["paid"] ∧
      ∀ order ∈ (storeAfter "INR" Step.refundMissed .stocked).tables.orders,
        order.status = word OrderStatus.cancelled →
          ∀ payment ∈ (storeAfter "INR" Step.refundMissed .stocked).tables.payments,
            payment.orderId = order.id → payment.status = word PaymentStatus.paid →
              RefundOwed "INR" .stocked Step.refundMissed order.id := by
  have hserved : ∀ step ∈ Step.refundMissed, step.IsServed := by
    simp [Step.refundMissed, Step.IsServed, Step.ofCall]
  refine ⟨by decide +kernel, fun order horder hcancelled payment hpayment howner hpaid => ?_⟩
  obtain ⟨hpayments, -⟩ := money_of_cancelled_orders "INR" Step.refundMissed .stocked hserved rfl
    rfl rfl order horder hcancelled
  exact (hpayments payment hpayment howner).2.2.1 hpaid

end Storefront
