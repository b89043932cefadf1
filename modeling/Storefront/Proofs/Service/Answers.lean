import Storefront.Proofs.Purchase.Feasibility
import Storefront.Proofs.Service.Belonging

/-!
Answers agree with the store. What an operation answers of an order or of its payment is what is
stored once it is done, so that whoever looks next finds it as it was answered. This holds of every
way in which an operation may succeed, also of a cancellation of which the refund failed and of a
callback that comes too late.
-/

namespace Storefront

open Session

/-- An administrator who looks at the order next finds it as it is. -/
def Order.IsRead (currency : String) (store : Store) (id : OrderId) (order : Order) : Prop :=
  ∀ look : Step, look.operation? = some (.getAnyOrder id) → look.fault = none →
    ∃ details : OrderDetails, details.order = order ∧
      look.OnlyAnswers currency store (.getAnyOrder id) (.ok (.orderDetails details))

/-- An administrator who looks at the order next finds just these details. -/
def OrderDetails.IsRead (currency : String) (store : Store) (details : OrderDetails) : Prop :=
  ∀ look : Step, look.operation? = some (.getAnyOrder details.order.id) → look.fault = none →
    look.OnlyAnswers currency store (.getAnyOrder details.order.id) (.ok (.orderDetails details))

/-- The order of the payment has an owner, who finds the payment as it is when looking next. -/
def Payment.IsRead (currency : String) (store : Store) (id : OrderId) (payment : Payment) : Prop :=
  ∃ owner, store.tables.OrderOf owner id ∧
    ∀ look : Step, look.operation? = some (.getPayment owner id) → look.fault = none →
      look.OnlyAnswers currency store (.getPayment owner id) (.ok (.payment payment))

/-- Whether an operation places an order or writes one that is there, or its payment. -/
def Operation.writesOrder : Operation → Bool
  | .placeFromCart .. => true
  | .placeDirect .. => true
  | .cancelItem .. => true
  | .cancelOrder .. => true
  | .updateOrderStatus .. => true
  | .createIntent .. => true
  | .confirmPayment .. => true
  | .refundPayment .. => true
  | _ => false

/-- What an operation that writes an order answers, by what is read of it next. -/
inductive Operation.IsReadBack (currency : String) (store : Store) : Operation → Reply → Prop
  | placedFromCart {user : UserId} {address : AddressId} {method : PaymentMethod}
      {details : OrderDetails} (read : details.IsRead currency store) :
      IsReadBack currency store (.placeFromCart user address method) (.orderDetails details)
  | placedDirect {user : UserId} {address : AddressId} {method : PaymentMethod}
      {items : List LineRequest} {details : OrderDetails} (read : details.IsRead currency store) :
      IsReadBack currency store (.placeDirect user address method items) (.orderDetails details)
  | itemCancelled {user : UserId} {id : OrderId} {item : ItemId} {reason : String} {order : Order}
      (read : order.IsRead currency store id) :
      IsReadBack currency store (.cancelItem user id item reason) (.order order)
  | orderCancelled {user : UserId} {id : OrderId} {order : Order}
      (read : order.IsRead currency store id) :
      IsReadBack currency store (.cancelOrder user id) (.order order)
  | statusUpdated {id : OrderId} {status : OrderStatus} {order : Order}
      (read : order.IsRead currency store id) :
      IsReadBack currency store (.updateOrderStatus id status) (.order order)
  | intentCreated {user : UserId} {id : OrderId} {method : PaymentMethod} {intent : PaymentIntent}
      (read : intent.payment.IsRead currency store id) :
      IsReadBack currency store (.createIntent user id method) (.paymentIntent intent)
  | paymentConfirmed {reference reported : String} {payment : Payment}
      (read : payment.IsRead currency store payment.orderId) :
      IsReadBack currency store (.confirmPayment reference reported) (.payment payment)
  | paymentRefunded {id : OrderId} {payment : Payment}
      (read : payment.IsRead currency store id) :
      IsReadBack currency store (.refundPayment id) (.payment payment)

variable {currency : String} {store : Store} {context : Context} {p p' : Progress} {id : OrderId}

/-! What is stored is read. -/

/-- Details that are stored are what is read. -/
theorem OrderDetails.StoredIn.isRead {details : OrderDetails} (store : Store)
    (stored : details.StoredIn store.tables) : details.IsRead currency store := by
  intro look asked calm
  have hread : Returns (Order.details details.order.id) (look.context currency) (look.start store)
      details (look.start store) := (Order.returns_details calm).mpr ⟨rfl, stored, rfl⟩
  obtain ⟨hanswer, hstore, hevents⟩ :=
    Step.outcome_of_returns currency asked (returns_map.mpr ⟨details, hread, rfl⟩)
  exact ⟨hanswer, hstore, hevents⟩

/-- An order that is stored has details. -/
theorem Order.exists_storedIn {t : Tables} {order : Order} (coherent : t.Coherent)
    (found : t.orders.find? (fun row => row.id = id) = some order.row) :
    ∃ details : OrderDetails, details.order = order ∧ details.StoredIn t := by
  obtain rfl := id_of_found found
  obtain ⟨items, hlisted⟩ := OrderItem.exists_listedIn coherent order.id
  exact ⟨⟨order, items, order.shippingAddressId.bind fun id =>
    t.orderAddresses.find? fun copy => copy.id = id⟩, rfl, found, hlisted, rfl⟩

theorem Order.isRead_of_found {order : Order} (coherent : store.tables.Coherent)
    (found : store.tables.orders.find? (fun row => row.id = id) = some order.row) :
    order.IsRead currency store id := by
  obtain rfl := id_of_found found
  obtain ⟨details, rfl, hstored⟩ := exists_storedIn coherent found
  exact fun look asked calm => ⟨details, rfl, hstored.isRead store look asked calm⟩

/-- The owner of an order reads its payment. -/
theorem Purchase.StoredIn.returns_findForUser {purchase : Purchase} {payment : Payment}
    (h : purchase.StoredIn p.tables) (calm : p.fault = none)
    (hpayment : purchase.payment = some payment) :
    Returns (Payment.findForUser purchase.order.userId purchase.order.id) context p payment p := by
  have hfind : Returns (Order.find purchase.order.id) context p (some purchase.order) p :=
    (Order.returns_find calm).mpr ⟨h.order_found, rfl⟩
  have hlook : Returns (Payment.findForOrder purchase.order.id) context p (some payment) p :=
    hpayment ▸ h.returns_findPayment calm
  exact hfind.bind_iff.mpr <| returns_bind.mpr ⟨_, _, returns_found.mpr ⟨rfl, rfl⟩,
    returns_bind.mpr ⟨⟨⟩, _, Order.returns_requireOwner.mpr ⟨rfl, rfl⟩,
      hlook.bind_iff.mpr (returns_found.mpr ⟨rfl, rfl⟩)⟩⟩

theorem Payment.isRead_of_mem {payment : Payment} (lawful : store.tables.Lawful)
    (stored : payment.row ∈ store.tables.payments) (own : payment.orderId = id) :
    payment.IsRead currency store id := by
  obtain ⟨purchase, other, hrow, hpayment, hpurchase⟩ :=
    Purchase.StoredIn.exists_of_mem_payments lawful stored
  obtain rfl := row_injective hrow
  obtain ⟨-, howner⟩ := hpurchase.mem_payments.mp hpayment
  obtain rfl : purchase.order.id = id := howner.symm.trans own
  refine ⟨purchase.order.userId,
    Tables.orderOf_of_found lawful.coherent hpurchase.order_found rfl, fun look asked calm => ?_⟩
  have hread : Returns (findForUser purchase.order.userId purchase.order.id) (look.context currency)
      (look.start store) payment (look.start store) := hpurchase.returns_findForUser calm hpayment
  obtain ⟨hanswer, hstore, hevents⟩ :=
    Step.outcome_of_returns currency asked (returns_map.mpr ⟨payment, hread, rfl⟩)
  exact ⟨hanswer, hstore, hevents⟩

/-! What is answered is stored. -/

namespace Order

/-- An order that is amended is found as it is written back. -/
theorem Amended.found_of_id {clock : Clock} {t t' : Tables} {order : Order} {items : List OrderItem}
    {change : Order × Option Payment} (h : Amended clock t order items change t')
    (own : order.id = id) :
    t'.orders.find? (fun row => row.id = id) = some (change.1.stamp clock.store).row := by
  rw [← own]
  exact h.found

/-- However a cancellation ends, what is answered is the order as it is stored. -/
theorem CancelEnds.found {fault : Option Fault} {t t' : Tables} {cancelled answer : Order}
    {due : Bool}
    {events : List Event} (h : CancelEnds context fault id t cancelled due answer events t')
    (found : t.orders.find? (fun row => row.id = id) = some cancelled.row)
    (stamped : cancelled.updatedAt = context.clock.store) :
    t'.orders.find? (fun row => row.id = id) = some answer.row := by
  cases h with
  | undue => exact found
  | refundFailed => exact found
  | @refunded other paid refunded stored _ owed refund =>
    obtain rfl : other = cancelled :=
      row_injective (Option.some.inj (refund.order_found.symm.trans found))
    rw [refund.amended.found_of_id (id_of_found found), ← stamped]
    rfl

end Order

namespace Payment

variable {clock : Clock} {t t' : Tables} {order : Order} {payment : Payment}

/-- A refunded payment is stored as it is answered, with its order. -/
theorem Refunded.mem {refunded : Payment} {stored : PaymentRow}
    (sound : PaymentRow.Sound t.payments)
    (h : Refunded clock id t order payment stored t')
    (written : refunded.row = overwrite { payment with status := .refunded } clock.store stored) :
    refunded.row ∈ t'.payments ∧ refunded.orderId = id := by
  obtain ⟨hpayment, -⟩ := h.payment_found.mem
  obtain ⟨hstored, hid⟩ := mem_of_find?_key h.row_found
  obtain rfl : stored = payment.row := eq_of_key_eq sound.key hstored hpayment hid
  have hfixed : Payment.fixed { payment with status := .refunded } = payment.fixed := rfl
  refine ⟨?_, h.orderId_eq sound written⟩
  rw [written, h.changed, overwrite_row hfixed]
  exact mem_writeTo_self hpayment hfixed

/-- What a callback answers is stored, also if it comes too late to change anything. -/
theorem CalledBack.mem {reference reported : String} {found : Payment} {confirmation : Confirmation}
    (settled : t.Settled)
    (h : CalledBack clock reference reported t order found payment confirmation t') :
    (payment.answered confirmation clock).row ∈ t'.payments := by
  obtain ⟨rfl, hstored, -, -⟩ := h.payment_eq settled
  rw [h.changed]
  cases confirmation with
  | alreadyPaid => exact hstored
  | paid => exact mem_writeTo_self hstored rfl
  | failed => exact mem_writeTo_self hstored rfl

end Payment

/-- What an operation that writes an order answers is read back. -/
theorem Operation.isReadBack_of_returns {operation : Operation} {reply : Reply}
    (lawful : p.tables.Lawful) (lawful' : p'.tables.Lawful) (writes : operation.writesOrder)
    (h : Returns operation.perform context p reply p') :
    operation.IsReadBack currency p'.store reply := by
  have hlawful' : p'.store.tables.Lawful := lawful'
  have hcoherent : p'.store.tables.Coherent := lawful'.coherent
  cases operation with
  | placeFromCart =>
    obtain ⟨details, hplace, rfl⟩ := returns_map.mp h
    obtain ⟨_, _, _, _, _, hstored⟩ := Order.storedIn_of_returns_place hplace
    exact .placedFromCart (hstored.isRead p'.store)
  | placeDirect =>
    obtain ⟨details, hdirect, rfl⟩ := returns_map.mp h
    obtain ⟨⟨⟩, _, _, hplace⟩ := returns_bind.mp hdirect
    obtain ⟨_, _, _, _, _, hstored⟩ := Order.storedIn_of_returns_place hplace
    exact .placedDirect (hstored.isRead p'.store)
  | cancelItem =>
    obtain ⟨answer, hcancel, rfl⟩ := returns_map.mp h
    obtain ⟨order, item, items, payment, hcancelled, rfl, -⟩ :=
      Order.itemCancelled_of_returns_cancelItem hcancel
    exact .itemCancelled (Order.isRead_of_found hcoherent
      (hcancelled.amended.found_of_id (Order.id_of_found hcancelled.order_found)))
  | cancelOrder =>
    obtain ⟨answer, hcancel, rfl⟩ := returns_map.mp h
    obtain ⟨order, items, payment, t, events, hcalled, hends, -⟩ :=
      Order.calledOff_of_returns_cancel hcancel
    have hfound := (hcalled.amended lawful.coherent).found_of_id
      (Order.id_of_found hcalled.order_found)
    exact .orderCancelled (Order.isRead_of_found hcoherent (hends.found hfound rfl))
  | updateOrderStatus =>
    obtain ⟨answer, hupdate, rfl⟩ := returns_map.mp h
    obtain ⟨order, items, payment, hmoved, rfl, -⟩ := Order.moved_of_returns_updateStatus hupdate
    exact .statusUpdated (Order.isRead_of_found hcoherent
      ((hmoved.amended lawful.coherent).found_of_id (Order.id_of_found hmoved.order_found)))
  | createIntent =>
    obtain ⟨intent, hcreate, rfl⟩ := returns_map.mp h
    obtain ⟨order, hopened, -, -⟩ := Payment.opened_of_returns_createIntent hcreate
    obtain ⟨hstored, howner⟩ := hopened.mem
    exact .intentCreated (Payment.isRead_of_mem hlawful' hstored howner)
  | confirmPayment =>
    obtain ⟨payment, hconfirm, rfl⟩ := returns_map.mp h
    obtain ⟨_, _, _, _, hcalled, rfl, -⟩ := Payment.calledBack_of_returns_confirm hconfirm
    exact .paymentConfirmed
      (Payment.isRead_of_mem hlawful' (hcalled.mem lawful.settled) rfl)
  | refundPayment =>
    obtain ⟨payment, hrefund, rfl⟩ := returns_map.mp h
    obtain ⟨_, _, _, hrefunded, hwritten, -⟩ := Payment.refunded_of_returns_refundForOrder hrefund
    obtain ⟨hstored, howner⟩ := hrefunded.mem lawful.settled.sound hwritten
    exact .paymentRefunded (Payment.isRead_of_mem hlawful' hstored howner)
  | _ => cases writes

/-- Answers agree with the store. After any run that began without orders, take a call or a request
that places an order, cancels one or an item of one, moves one, or creates, confirms or refunds a
payment, and that succeeds, whether it meets a fault or not. An administrator who looks at the order
next finds the order that was answered, or the details that were, and the owner of the order finds
the payment that was answered, in every column; the clock of the store shows one time during a step,
so that this is true of the time of the last change as well. -/
theorem answers_read_back (currency : String) (steps : List Step) (start : Store)
    (served : ∀ step ∈ steps, step.IsServed) (constrained : start.tables.Constrained)
    (orders : start.tables.orders = []) (step : Step) (operation : Operation)
    (asked : step.operation? = some operation) (writes : operation.writesOrder)
    (succeeds : (step.run currency (storeAfter currency steps start)).answer.isError = false) :
    ∃ reply,
      (step.run currency (storeAfter currency steps start)).answer =
        step.answerOf operation (.ok reply) ∧
      operation.IsReadBack currency (step.run currency (storeAfter currency steps start)).store
        reply := by
  have hlawful := (ready_storeAfter currency served constrained orders).lawful
  have hlawful' : (step.run currency (storeAfter currency steps start)).store.tables.Lawful :=
    Step.lawful (Step.isServed_of_operation asked) hlawful
  obtain ⟨reply, after, hreturns, hafter⟩ := (Step.succeeds_iff asked).mp ⟨succeeds, rfl⟩
  obtain ⟨hanswer, -, -⟩ := Step.outcome_of_returns currency asked hreturns
  refine ⟨reply, hanswer, ?_⟩
  rw [← hafter] at hlawful' ⊢
  exact operation.isReadBack_of_returns hlawful hlawful' writes hreturns

/-- A paid order is cancelled, and its refund fails. -/
def Step.unrefunded : Step :=
  { ofCall (.cancelOrder 7 1) with fault := some ⟨.update, .payments, 1⟩ }

/-- The order is stored as cancelled and still paid, and it is answered as it is read. -/
theorem answers_unrefunded :
    ((Step.unrefunded.run "INR" (storeAfter "INR" Step.paidFor .stocked)).store.tables.orders.map
        fun row => (row.status, row.paymentStatus)) = [("cancelled", "paid")] ∧
      ∃ order : Order,
        (Step.unrefunded.run "INR" (storeAfter "INR" Step.paidFor .stocked)).answer =
          .reply (.ok (.order order)) ∧
        order.IsRead "INR"
          (Step.unrefunded.run "INR" (storeAfter "INR" Step.paidFor .stocked)).store 1 := by
  have hserved : ∀ step ∈ Step.paidFor, step.IsServed := by
    simp [Step.paidFor, Step.isServed_ofCall]
  obtain ⟨reply, hanswer, hread⟩ := answers_read_back "INR" Step.paidFor .stocked hserved
    Store.constrained_stocked rfl Step.unrefunded (.cancelOrder 7 1) rfl rfl (by decide +kernel)
  cases hread with
  | orderCancelled read => exact ⟨by decide +kernel, _, hanswer, read⟩

end Storefront
