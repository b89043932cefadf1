import Storefront.Proofs.Purchase.Completion
import Storefront.Proofs.Purchase.Interruption
import Storefront.Proofs.Service.Isolation

/-!
What a change of status by an administrator does to the rows of the store. It is refused if the
order is missing or may not be moved there, and succeeds otherwise: a delivery settles what was
still to be paid, a cancellation empties the order and gives back or calls off its payment, and any
other change leaves all but the status alone.
-/

namespace Storefront

open Session

/-! What becomes of the tables. -/

namespace Tables

/-- An order is moved on, and all else stays as it is. -/
def advanceOrder (now : Instant) (id : OrderId) (next : OrderStatus) (t : Tables) : Tables :=
  { t with
    orders := updateWhere (fun row => row.id = id)
      (fun row => { row with status := word next, updatedAt := now }) t.orders }

/-- An order is delivered and so paid for, and its payment with it if that was pending. -/
def deliverOrder (now : Instant) (id : OrderId) (paidAt : Instant) (t : Tables) : Tables :=
  { t with
    orders := updateWhere (fun row => row.id = id)
      (fun row => { row with
        status := word OrderStatus.delivered
        paymentStatus := word PaymentStatus.paid
        paidAt := some paidAt
        updatedAt := now }) t.orders
    payments := updateWhere (fun row => row.orderId = id && row.status = word PaymentStatus.pending)
      (fun row => { row with
        status := word PaymentStatus.paid
        paidAt := some paidAt
        updatedAt := now }) t.payments }

/-- Every item of an order that is not cancelled is cancelled, and its units go back into stock. -/
def emptyOrder (clock : Clock) (id : OrderId) (t : Tables) : Tables :=
  { t with
    products := t.products.map (Product.withUnits (t.openUnits id))
    orderItems := updateWhere
      (fun row => row.orderId = id && row.status ≠ word ItemStatus.cancelled)
      (ItemRow.cancel clock "Cancelled by admin") t.orderItems }

/-- An order is cancelled, and its payment refunded. -/
def refundOrder (now : Instant) (id : OrderId) (t : Tables) : Tables :=
  { t with
    orders := updateWhere (fun row => row.id = id)
      (fun row => { row with
        status := word OrderStatus.cancelled
        finalTotal := 0
        paymentStatus := word PaymentStatus.refunded
        updatedAt := now }) t.orders
    payments := updateWhere (fun row => row.orderId = id && row.status = word PaymentStatus.paid)
      (fun row => { row with
        status := word PaymentStatus.refunded
        updatedAt := now }) t.payments }

/-- An order is cancelled, and its payment called off if no money has moved. -/
def callOffOrder (now : Instant) (id : OrderId) (t : Tables) : Tables :=
  { t with
    orders := updateWhere (fun row => row.id = id)
      (fun row => { row with
        status := word OrderStatus.cancelled
        finalTotal := 0
        paymentStatus := word PaymentStatus.cancelled
        paidAt := none
        updatedAt := now }) t.orders
    payments := updateWhere
      (fun row => row.orderId = id &&
        (row.status = word PaymentStatus.pending || row.status = word PaymentStatus.failed))
      (fun row => { row with
        status := word PaymentStatus.cancelled
        updatedAt := now }) t.payments }

/-- A payment of the order is paid. -/
def hasPaid (id : OrderId) (t : Tables) : Bool :=
  t.payments.any fun row => row.orderId = id && row.status = word PaymentStatus.paid

/-- An order is moved by an administrator. -/
def moveOrder (clock : Clock) (order : OrderRow) (next : OrderStatus) (t : Tables) : Tables :=
  match next with
  | .delivered => t.deliverOrder clock.store order.id (order.paidAt.getD clock.wall)
  | .cancelled =>
    if t.hasPaid order.id then (t.emptyOrder clock order.id).refundOrder clock.store order.id
    else (t.emptyOrder clock order.id).callOffOrder clock.store order.id
  | next => t.advanceOrder clock.store order.id next

end Tables

variable {clock : Clock} {t t' : Tables} {id : OrderId} {next : OrderStatus}

namespace OrderItem

theorem Withdrawn.eq_of_nil {reason : String} (h : Withdrawn clock reason [] t t') : t' = t := by
  obtain ⟨products, hrestocked, rfl⟩ := h
  cases hrestocked
  rw [ItemRow.cancelAll_nil]

/-- The items of an order that an administrator cancels are those that are not cancelled yet. -/
theorem ListedIn.cancelAll_eq {items : List OrderItem} (coherent : t.Coherent)
    (h : ListedIn id items t.orderItems) :
    ItemRow.cancelAll clock "Cancelled by admin" (openByProduct items) t.orderItems =
      (t.emptyOrder clock id).orderItems := by
  refine updateWhere_congr (fun row hrow => Bool.eq_iff_iff.mpr ?_) fun _ _ _ => rfl
  obtain ⟨item, rfl⟩ := coherent.items_read row hrow
  rw [Bool.and_eq_true, decide_eq_true_eq, decide_eq_true_eq, decide_eq_true_eq, List.mem_map]
  constructor
  · rintro ⟨other, hother, hid⟩
    obtain ⟨hlisted, hopen⟩ := mem_openByProduct.mp hother
    obtain ⟨hstored, howner⟩ := h.mem_iff.mp hlisted
    obtain rfl : other = item := row_injective (eq_of_key_eq coherent.items_key hstored hrow hid)
    exact ⟨howner, status_row_ne hopen⟩
  · rintro ⟨howner, hstatus⟩
    have hpending : item.status = .pending :=
      ItemStatus.word_inj.mp ((coherent.items_status item.row hrow).resolve_right hstatus)
    have hopen : item.status.isCancellable := by
      rw [hpending]
      rfl
    exact ⟨item, mem_openByProduct.mpr ⟨h.mem_iff.mpr ⟨hrow, howner⟩, hopen⟩, rfl⟩

end OrderItem

namespace Order.Moved

variable {order : Order} {items : List OrderItem} {payment : Option Payment}

/-- A move that is no cancellation is an amendment of the tables as they are. -/
theorem eq_amend (h : Moved clock id next t order items payment t')
    (uncancelled : next ≠ .cancelled) :
    t' = t.amend clock.store (order.moved next clock.wall payment) := by
  obtain ⟨withdrawn, hwithdrawn, rfl⟩ := h.changed
  rw [withdrawnBy, if_neg uncancelled] at hwithdrawn
  rw [hwithdrawn.eq_of_nil]

/-- What a move writes of the order. -/
theorem writeTo_eq (coherent : t.Coherent) (h : Moved clock id next t order items payment t')
    {f : OrderRow → OrderRow}
    (hf : f order.row = ((order.moved next clock.wall payment).1.stamp clock.store).row) :
    (order.moved next clock.wall payment).1.writeTo clock.store t.orders =
      updateWhere (fun row => row.id = id) f t.orders := by
  obtain ⟨hstored, rfl⟩ := mem_of_find?_key h.order_found
  exact Order.writeTo_eq coherent.orders_key hstored (fixed_moved order next clock.wall payment) hf

theorem eq_advanceOrder (coherent : t.Coherent) (h : Moved clock id next t order items payment t')
    (undelivered : next ≠ .delivered) (uncancelled : next ≠ .cancelled) :
    t' = t.advanceOrder clock.store id next := by
  have hmoved : order.moved next clock.wall payment = ({ order with status := next }, none) := by
    cases next with
    | delivered => exact absurd rfl undelivered
    | cancelled => exact absurd rfl uncancelled
    | _ => rfl
  have horders : (order.moved next clock.wall payment).1.writeTo clock.store t.orders =
      (t.advanceOrder clock.store id next).orders := by
    refine h.writeTo_eq coherent ?_
    rw [hmoved]
    rfl
  rw [h.eq_amend uncancelled, Tables.amend, horders, hmoved]
  rfl

theorem eq_deliverOrder (coherent : t.Coherent) (sound : PaymentRow.Sound t.payments)
    (h : Moved clock id .delivered t order items payment t') :
    t' = t.deliverOrder clock.store id (order.paidAt.getD clock.wall) := by
  have horders : (order.moved .delivered clock.wall payment).1.writeTo clock.store t.orders =
      (t.deliverOrder clock.store id (order.paidAt.getD clock.wall)).orders :=
    h.writeTo_eq coherent rfl
  have hpayments : Payment.writeTo clock.store
      (paidOnDelivery (order.paidAt.getD clock.wall) payment) t.payments =
        (t.deliverOrder clock.store id (order.paidAt.getD clock.wall)).payments := by
    refine Payment.writeTo_filter_map sound h.payment_found (fun payment => ?_) (fun _ => rfl)
      fun _ => rfl
    exact decide_eq_decide.mpr PaymentStatus.word_inj
  have hchanged : (order.moved .delivered clock.wall payment).2 =
      paidOnDelivery (order.paidAt.getD clock.wall) payment := rfl
  rw [h.eq_amend (by decide), Tables.amend, horders, hchanged, hpayments]
  rfl

/-- A paid payment of the order is the one that was found for it. -/
theorem hasPaid_iff (sound : PaymentRow.Sound t.payments)
    (h : Moved clock id next t order items payment t') :
    t.hasPaid id ↔ ∃ paid, payment = some paid ∧ paid.status = .paid := by
  simp only [Tables.hasPaid, List.any_eq_true, Bool.and_eq_true, decide_eq_true_eq]
  constructor
  · rintro ⟨row, hrow, howner, hstatus⟩
    have hfound := h.payment_found.eq_of_mem sound hrow howner
    obtain ⟨paid, rfl, rfl⟩ := Option.map_eq_some_iff.mp hfound
    exact ⟨paid, rfl, PaymentStatus.word_inj.mp hstatus⟩
  · rintro ⟨paid, rfl, hstatus⟩
    obtain ⟨hstored, howner⟩ := h.payment_found.mem
    exact ⟨paid.row, hstored, howner, congrArg word hstatus⟩

/-- A cancellation empties the order and then settles its payment; when the stock was last changed
is left open. -/
theorem undated_eq (lawful : t.Lawful) (supplied : t.Supplied) (lawful' : t'.Lawful)
    (h : Moved clock id .cancelled t order items payment t') :
    t'.undated = ((t.emptyOrder clock id).amend clock.store
      (order.moved .cancelled clock.wall payment)).undated := by
  have hunmarked : t'.unmarked = Purchase.cancelIn ⟨order, [], payment⟩ t :=
    Moved.unmarked_eq lawful.coherent supplied lawful' ((id_of_found h.order_found).symm ▸ h)
  have hid := id_of_found h.order_found
  -- Stocks are known from what every way to cancel an order leaves; that leaves the marks of the
  -- items open, which are read off the items themselves.
  have hproducts : t'.products.map Product.unmarked =
      (t.emptyOrder clock id).products.map Product.unmarked := by
    rw [← hid]
    exact congrArg (·.products) hunmarked
  obtain ⟨withdrawn, hwithdrawn, rfl⟩ := h.changed
  have hitems : withdrawn.orderItems = (t.emptyOrder clock id).orderItems :=
    hwithdrawn.orderItems_eq.trans ((h.items_listed rfl).cancelAll_eq lawful.coherent)
  obtain ⟨products, -, rfl⟩ := hwithdrawn
  simp only [Tables.undated, Tables.amend] at hproducts hitems ⊢
  rw [hproducts, hitems]
  rfl

/-- A payment that is paid is given back. -/
theorem amend_eq_refundOrder (coherent : t.Coherent) (sound : PaymentRow.Sound t.payments)
    (h : Moved clock id .cancelled t order items payment t') (due : order.refundDue payment) :
    (t.emptyOrder clock id).amend clock.store (order.moved .cancelled clock.wall payment) =
      (t.emptyOrder clock id).refundOrder clock.store id := by
  obtain ⟨-, paid, rfl, hpaid⟩ := exists_paid_of_refundDue due
  have hmoved : order.moved .cancelled clock.wall (some paid) =
      ({ order.cancelled with paymentStatus := .refunded },
        ((some paid).filter (·.status = .paid)).map fun paid =>
          { paid with status := .refunded }) := by
    have hdue : order.cancelled.refundDue (some paid) := due
    have hfiltered : (some paid).filter (·.status = .paid) = some paid := by simp [hpaid]
    rw [moved_cancelled, settledOnCancel, if_pos hdue, hfiltered]
  have horders : (order.moved .cancelled clock.wall (some paid)).1.writeTo clock.store
      (t.emptyOrder clock id).orders =
        ((t.emptyOrder clock id).refundOrder clock.store id).orders := by
    refine h.writeTo_eq coherent ?_
    rw [hmoved]
    rfl
  have hpayments : Payment.writeTo clock.store (order.moved .cancelled clock.wall (some paid)).2
      (t.emptyOrder clock id).payments =
        ((t.emptyOrder clock id).refundOrder clock.store id).payments := by
    rw [hmoved]
    refine Payment.writeTo_filter_map sound h.payment_found (fun payment => ?_) (fun _ => rfl)
      fun _ => rfl
    exact decide_eq_decide.mpr PaymentStatus.word_inj
  rw [Tables.amend, horders, hpayments]
  rfl

/-- Where no refund is due, the payment is called off unless money has moved. -/
theorem amend_eq_callOffOrder (coherent : t.Coherent) (sound : PaymentRow.Sound t.payments)
    (h : Moved clock id .cancelled t order items payment t') (undue : ¬order.refundDue payment) :
    (t.emptyOrder clock id).amend clock.store (order.moved .cancelled clock.wall payment) =
      (t.emptyOrder clock id).callOffOrder clock.store id := by
  have hmoved : order.moved .cancelled clock.wall payment =
      (order.cancelled.withPaymentCancelled, Payment.calledOff payment) := by
    have hundue : ¬order.cancelled.refundDue payment := undue
    rw [moved_cancelled, settledOnCancel, if_neg hundue]
  have horders : (order.moved .cancelled clock.wall payment).1.writeTo clock.store
      (t.emptyOrder clock id).orders =
        ((t.emptyOrder clock id).callOffOrder clock.store id).orders := by
    refine h.writeTo_eq coherent ?_
    rw [hmoved]
    rfl
  have hpayments : Payment.writeTo clock.store (order.moved .cancelled clock.wall payment).2
      (t.emptyOrder clock id).payments =
        ((t.emptyOrder clock id).callOffOrder clock.store id).payments := by
    rw [hmoved]
    refine Payment.writeTo_filter_map sound h.payment_found (fun payment => ?_) (fun _ => rfl)
      fun _ => rfl
    change (decide (word payment.status = _) || decide (word payment.status = _)) = _
    cases payment.status <;> decide
  rw [Tables.amend, horders, hpayments]
  rfl

/-- A move does to the rows what it is to do. -/
theorem undated_moveOrder (lawful : t.Lawful) (supplied : t.Supplied) (lawful' : t'.Lawful)
    (h : Moved clock id next t order items payment t')
    (due : ∀ paid, payment = some paid → paid.status = .paid → order.refundDue payment) :
    t'.undated = (t.moveOrder clock order.row next).undated := by
  have hsound := lawful.settled.sound
  obtain rfl := id_of_found h.order_found
  cases next with
  | delivered => rw [h.eq_deliverOrder lawful.coherent hsound]; rfl
  | cancelled =>
    rw [h.undated_eq lawful supplied lawful']
    by_cases hpaid : t.hasPaid order.id
    · obtain ⟨paid, hfound, hstatus⟩ := (h.hasPaid_iff hsound).mp hpaid
      have hmove : t.moveOrder clock order.row .cancelled =
          (t.emptyOrder clock order.id).refundOrder clock.store order.id := if_pos hpaid
      rw [h.amend_eq_refundOrder lawful.coherent hsound (due paid hfound hstatus), hmove]
    · have hundue : ¬order.refundDue payment := fun hdue =>
        hpaid ((h.hasPaid_iff hsound).mpr (exists_paid_of_refundDue hdue).2)
      have hmove : t.moveOrder clock order.row .cancelled =
          (t.emptyOrder clock order.id).callOffOrder clock.store order.id := if_neg hpaid
      rw [h.amend_eq_callOffOrder lawful.coherent hsound hundue, hmove]
  | _ =>
    rw [h.eq_advanceOrder lawful.coherent (by decide) (by decide)]
    rfl

end Order.Moved

section Steps

variable {currency : String} {step : Step} {store : Store} {purchase : Purchase}

/-- A missing order is not moved. -/
theorem Step.move_missing (asked : step.operation? = some (.updateOrderStatus id next))
    (calm : step.fault = none) (missing : ∀ row ∈ store.tables.orders, row.id ≠ id) :
    step.OnlyAnswers currency store (.updateOrderStatus id next) (.error .notFound) := by
  have hfind : Returns (Order.find id) (step.context currency) (step.start store) none
      (step.start store) := (Order.returns_find calm).mpr ⟨find?_key_eq_none.mpr missing, rfl⟩
  have hrefused : Refuses (Order.move id next) (step.context currency) (step.start store)
      .notFound := (hfind.refuses (refuses_found.bind _)).transaction
  exact onlyAnswers_of_refuses currency asked ((hrefused.bind _).map _)

/-- An order is not moved where it may not go. -/
theorem Step.move_forbidden (h : purchase.StoredIn store.tables)
    (asked : step.operation? = some (.updateOrderStatus purchase.order.id next))
    (calm : step.fault = none) (forbidden : ¬purchase.order.status.canBecome next) :
    step.OnlyAnswers currency store (.updateOrderStatus purchase.order.id next)
      (.error (.invalidOrderStatus
        ("cannot move order from " ++ word purchase.order.status ++ " to " ++ word next))) := by
  have hfind : Returns (Order.find purchase.order.id) (step.context currency) (step.start store)
      (some purchase.order) (step.start store) :=
    (Order.returns_find calm).mpr ⟨h.order_found, rfl⟩
  have hrefused : Refuses (Order.move purchase.order.id next) (step.context currency)
      (step.start store) (.invalidOrderStatus
        ("cannot move order from " ++ word purchase.order.status ++ " to " ++ word next)) := by
    refine Refuses.transaction (hfind.refuses ?_)
    refine Returns.refuses (a := purchase.order) (returns_found.mpr ⟨rfl, rfl⟩) ?_
    refine Refuses.bind ?_ _
    rw [Bool.eq_false_iff.mpr forbidden]
    exact refuses_require
  exact onlyAnswers_of_refuses currency asked ((hrefused.bind _).map _)

/-- An order that may be moved is moved, and answered as it is stored then. -/
theorem Step.move_allowed (h : purchase.StoredIn store.tables) (ready : store.tables.Ready)
    (backed : purchase.Backed)
    (asked : step.operation? = some (.updateOrderStatus purchase.order.id next))
    (calm : step.fault = none) (allowed : purchase.order.status.canBecome next) :
    ∃ moved : Order, moved.id = purchase.order.id ∧
      moved.row ∈ (step.run currency store).store.tables.orders ∧
      (step.run currency store).answer =
        step.answerOf (.updateOrderStatus purchase.order.id next) (.ok (.order moved)) ∧
      (step.run currency store).store.tables.undated =
        (store.tables.moveOrder step.clock purchase.order.row next).undated := by
  have hlawful := ready.lawful
  obtain ⟨answer, last, hmove⟩ : Succeeds (Order.move purchase.order.id next)
      (step.context currency) (step.start store) := h.succeeds_moveTo calm ready allowed
  obtain ⟨hanswer, hstore, -⟩ := outcome_of_returns currency asked
    (returns_map.mpr ⟨answer.1, returns_announced.mpr ⟨answer, last, hmove, rfl, rfl⟩, rfl⟩)
  have htables : (step.run currency store).store.tables = last.tables :=
    congrArg (·.tables) hstore
  obtain ⟨order, items, payment, hmoved, rfl⟩ := Order.moved_of_returns calm hmove
  obtain rfl := h.order_eq hmoved.order_found
  obtain rfl := h.payment_eq hmoved.payment_found
  have hlawful' : (step.run currency store).store.tables.Lawful :=
    Step.lawful (isServed_of_operation asked) hlawful
  have hmoved : Order.Moved step.clock purchase.order.id next store.tables purchase.order items
      purchase.payment (step.run currency store).store.tables := by
    rw [htables]
    exact hmoved
  have hamended := hmoved.amended hlawful.coherent
  have hstored := (mem_of_find?_key hamended.found).1
  -- In a store as runs leave it a paid payment went through a gateway, so it is always given back.
  have hundated := hmoved.undated_moveOrder hlawful ready.supplied hlawful' fun paid hfound hpaid =>
    backed.refundDue hfound hpaid (OrderStatus.ne_delivered_of_canBecome allowed)
  exact ⟨(purchase.order.moved next step.clock.wall purchase.payment).1.stamp step.clock.store,
    Order.id_of_fixed hamended.fixed, hstored, hanswer, hundated⟩

end Steps

/-- A change of status by an administrator does just what it is specified to do. In the store after
a run that began without orders, it is refused if the order is missing or may not be moved there,
and does nothing then. Otherwise it succeeds, and what it changes is what the move of the order is
to change, but for times of the last changes. -/
theorem statusChanges_exact (currency : String) (steps : List Step) (start : Store)
    (served : ∀ step ∈ steps, step.IsServed) (constrained : start.tables.Constrained)
    (orders : start.tables.orders = []) (step : Step) (id : OrderId) (next : OrderStatus)
    (asked : step.operation? = some (.updateOrderStatus id next)) (calm : step.fault = none) :
    ((∀ row ∈ (storeAfter currency steps start).tables.orders, row.id ≠ id) →
      step.OnlyAnswers currency (storeAfter currency steps start) (.updateOrderStatus id next)
        (.error .notFound)) ∧
    ∀ row ∈ (storeAfter currency steps start).tables.orders, row.id = id →
      ∃ status : OrderStatus, row.status = word status ∧
        (¬status.canBecome next →
          step.OnlyAnswers currency (storeAfter currency steps start) (.updateOrderStatus id next)
            (.error (.invalidOrderStatus
              ("cannot move order from " ++ word status ++ " to " ++ word next)))) ∧
        (status.canBecome next →
          ∃ moved : Order, moved.id = id ∧
            moved.row ∈
              (step.run currency (storeAfter currency steps start)).store.tables.orders ∧
            (step.run currency (storeAfter currency steps start)).answer =
              step.answerOf (.updateOrderStatus id next) (.ok (.order moved)) ∧
            (step.run currency (storeAfter currency steps start)).store.tables.undated =
              ((storeAfter currency steps start).tables.moveOrder step.clock row
                next).undated) := by
  have hready := ready_storeAfter currency served constrained orders
  refine ⟨Step.move_missing asked calm, ?_⟩
  intro row hrow hid
  obtain ⟨purchase, rfl, hpurchase⟩ := Purchase.StoredIn.exists_of_mem hready.lawful hrow
  have hbacked : purchase.Backed := Purchase.invariant_storeAfter (fun _ => .of_placed)
    (fun _ _ _ => .move) served orders (constrained.orderItems_eq_nil orders)
    (constrained.payments_eq_nil orders) purchase hpurchase
  obtain rfl : purchase.order.id = id := hid
  exact ⟨purchase.order.status, rfl, Step.move_forbidden hpurchase asked calm,
    Step.move_allowed hpurchase hready hbacked asked calm⟩

/-- An administrator cancels a purchase that is paid for. -/
def Step.cancelledByAdmin : Step := ofCallAt 5 (.updateOrderStatus 1 .cancelled)

theorem statusChanges_cancelledByAdmin :
    ∃ row ∈ (storeAfter "INR" Step.paidFor .stocked).tables.orders, row.id = 1 ∧
      (Step.cancelledByAdmin.run "INR"
        (storeAfter "INR" Step.paidFor .stocked)).store.tables.undated =
        ((storeAfter "INR" Step.paidFor .stocked).tables.moveOrder Step.cancelledByAdmin.clock row
          .cancelled).undated ∧
      ((storeAfter "INR" Step.paidFor .stocked).tables.moveOrder Step.cancelledByAdmin.clock row
        .cancelled).payments.map (·.status) = ["refunded"] := by
  have hserved : ∀ step ∈ Step.paidFor, step.IsServed := by
    simp [Step.paidFor, Step.isServed_ofCall]
  have hrow : ∃ row ∈ (storeAfter "INR" Step.paidFor .stocked).tables.orders, row.id = 1 ∧
      row.status = word OrderStatus.pending ∧
      ((storeAfter "INR" Step.paidFor .stocked).tables.moveOrder Step.cancelledByAdmin.clock row
        .cancelled).payments.map (·.status) = ["refunded"] := by
    decide +kernel
  obtain ⟨row, hstored, hid, hpending, hrefunded⟩ := hrow
  obtain ⟨-, hexact⟩ := statusChanges_exact "INR" Step.paidFor .stocked hserved
    Store.constrained_stocked rfl Step.cancelledByAdmin 1 .cancelled rfl rfl
  obtain ⟨status, hstatus, -, hallowed⟩ := hexact row hstored hid
  obtain rfl : status = .pending := OrderStatus.word_inj.mp (hstatus.symm.trans hpending)
  obtain ⟨moved, -, -, -, hundated⟩ := hallowed rfl
  exact ⟨row, hstored, hid, hundated, hrefunded⟩

end Storefront
