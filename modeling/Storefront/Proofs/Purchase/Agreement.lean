import Storefront.Proofs.Order.Withdrawal
import Storefront.Proofs.Purchase.Feasibility

/-!
The ways to cancel an order agree. An administrator's move, a user's cancellation and the
cancellation of one open item after the other all succeed, and they all leave the tables that one
cancellation of the whole purchase would leave, but for the marks of cancellations.
-/

namespace Storefront

open Session

/-- The items that are still to be cancelled. -/
def ItemRow.openIds (rows : List ItemRow) : List ItemId :=
  (rows.filter fun row => row.status ≠ word ItemStatus.cancelled).map (·.id)

/-- The step is the cancellation of an item by a user, with a reason that can be stored, and meets
no fault. -/
structure Step.CancelsItem (step : Step) (user : UserId) (order : OrderId) (item : ItemId) :
    Prop where
  asked : ∃ reason, fitsText reason ∧
    step.operation? = some (.cancelItem user order item reason)
  calm : step.fault = none

/-- The ways to cancel an order: by an administrator, by its user while it is pending, and by its
user item by item, in any order. -/
inductive OrderRow.CancelledBy (order : OrderRow) (t : Tables) : List Step → Prop
  | administrator {step : Step}
      (asked : step.operation? = some (.updateOrderStatus order.id .cancelled))
      (calm : step.fault = none) : CancelledBy order t [step]
  | user {step : Step} (pending : order.status = word OrderStatus.pending)
      (asked : step.operation? = some (.cancelOrder order.userId order.id))
      (calm : step.fault = none) : CancelledBy order t [step]
  | items {ids : List ItemId} {steps : List Step}
      (all : ids.Perm (ItemRow.openIds (ItemRow.ofOrder order.id t.orderItems)))
      (asked : List.Forall₂ (fun id step => step.CancelsItem order.userId order.id id) ids steps) :
      CancelledBy order t steps

/-- What the cancellation of a purchase makes of the tables, but for its marks. -/
def Purchase.cancelIn (purchase : Purchase) (t : Tables) : Tables :=
  (t.withdrawAll purchase.order.id).unmarked.amend ⟨0, 0⟩
    (purchase.order.cancelled.settledOnCancel purchase.payment)

/-- The steps succeed, and leave what the cancellation of the purchase makes of the tables. -/
def Purchase.CancelledOver (purchase : Purchase) (currency : String) (steps : List Step)
    (store : Store) : Prop :=
  (∀ outcome ∈ run currency steps store, outcome.answer.isError = false) ∧
    (storeAfter currency steps store).tables.unmarked = purchase.cancelIn store.tables

variable {clock : Clock} {t t' : Tables}

namespace ItemRow

variable {rows : List ItemRow}

theorem openIds_eq_nil :
    openIds rows = [] ↔ ∀ row ∈ rows, row.status = word ItemStatus.cancelled := by
  simp [openIds, List.filter_eq_nil_iff]

theorem openIds_cons (row : ItemRow) (rest : List ItemRow) :
    openIds (row :: rest) =
      if row.status = word ItemStatus.cancelled then openIds rest else row.id :: openIds rest := by
  by_cases hopen : row.status = word ItemStatus.cancelled
  · simp [openIds, hopen]
  · simp [openIds, hopen]

/-- A cancelled item does not have to be cancelled any more. -/
theorem openIds_cancel (id : ItemId) (reason : String) (rows : List ItemRow) :
    openIds (updateWhere (fun row => row.id = id) (cancel clock reason) rows) =
      (openIds rows).filter (· ≠ id) := by
  induction rows with
  | nil => rfl
  | cons row rest ih =>
    have hcancelled : (cancel clock reason row).status = word ItemStatus.cancelled := rfl
    rw [updateWhere_cons, openIds_cons, openIds_cons, ih]
    by_cases hid : row.id = id
    · by_cases hopen : row.status = word ItemStatus.cancelled
      · simp [hid, hopen, hcancelled]
      · simp [hid, hopen, hcancelled]
    · by_cases hopen : row.status = word ItemStatus.cancelled
      · simp [hid, hopen]
      · simp [hid, hopen]

/-- The items of an order are different. -/
theorem nodup_openIds (coherent : t.Coherent) (id : OrderId) :
    (openIds (ofOrder id t.orderItems)).Nodup :=
  coherent.items_key.sublist ((List.filter_sublist.trans List.filter_sublist).map _)

end ItemRow

/-- The rest of a list in another order, without its first element. -/
theorem perm_filter_ne {α : Type} [DecidableEq α] {x : α} {rest xs : List α}
    (h : (x :: rest).Perm xs) (unique : xs.Nodup) : rest.Perm (xs.filter (· ≠ x)) := by
  obtain ⟨hx, -⟩ := List.nodup_cons.mp (h.nodup_iff.mpr unique)
  have hrest : rest.filter (· ≠ x) = rest :=
    List.filter_eq_self.mpr fun y hy => decide_eq_true fun hsame => hx (hsame ▸ hy)
  have hfiltered := h.filter (· ≠ x)
  rw [List.filter_cons_of_neg (by simp), hrest] at hfiltered
  exact hfiltered

namespace Order

variable {order : Order} {items : List OrderItem} {change : Order × Option Payment}

theorem settledOnCancel_stamp (order : Order) (now : Instant) (payment : Option Payment) :
    (order.stamp now).settledOnCancel payment =
      ((order.settledOnCancel payment).1.stamp now, (order.settledOnCancel payment).2) := by
  have hdue : (order.stamp now).refundDue payment = order.refundDue payment := rfl
  simp only [settledOnCancel, hdue]
  split <;> rfl

/-- All items are cancelled once their order is. -/
theorem Amended.items_cancelled (lawful' : t'.Lawful) (h : Amended clock t order items change t')
    (hstatus : change.1.status = .cancelled) :
    ∀ row ∈ ItemRow.ofOrder order.id t'.orderItems, row.status = word ItemStatus.cancelled := by
  have hstored := (mem_of_find?_key h.found).1
  have hid : (change.1.stamp clock.store).row.id = order.id := id_of_fixed h.fixed
  rw [← hid]
  exact (lawful'.totalled _ hstored).cancelled_iff.mp (congrArg word hstatus)

/-- What is to be cancelled of an order once one of its items is. -/
theorem ItemCancelled.openIds_eq {user : UserId} {id : OrderId} {itemId : ItemId} {reason : String}
    {item : OrderItem} {payment : Option Payment}
    (h : ItemCancelled clock user id itemId reason t order item items payment t') :
    ItemRow.openIds (ItemRow.ofOrder id t'.orderItems) =
      (ItemRow.openIds (ItemRow.ofOrder id t.orderItems)).filter (· ≠ item.id) := by
  obtain ⟨withdrawn, hwithdrawn, rfl⟩ := h.changed
  have hitems : ItemRow.ofOrder id withdrawn.orderItems = _ := hwithdrawn.ofOrder_eq
  rw [← ItemRow.openIds_cancel, ← hitems]
  rfl

end Order

namespace Purchase

variable {purchase next : Purchase} {order : Order} {items : List OrderItem}

/-- An amendment that cancels the order and settles its payment leaves what is to be left. -/
theorem unmarked_of_cancelled (coherent : t.Coherent) (supplied : t.Supplied) (lawful' : t'.Lawful)
    (amended : Order.Amended clock t purchase.order items
      (purchase.order.cancelled.settledOnCancel purchase.payment) t') :
    t'.unmarked = purchase.cancelIn t := by
  have hstatus := Order.status_settledOnCancel purchase.order.cancelled purchase.payment
  have hwithdrawn := amended.unmarked_withdrawAll coherent supplied
  rw [Tables.withdrawAll_eq_self (amended.items_cancelled lawful' hstatus)] at hwithdrawn
  exact hwithdrawn

/-- An amendment that leaves the payment alone does not change what is to be left in the end, if its
order differs only in what a cancellation overwrites. -/
theorem cancelIn_of_amended (coherent : t.Coherent) (supplied : t.Supplied)
    (amended : Order.Amended clock t purchase.order items (order, none) t')
    (cancelled_eq : order.cancelled = purchase.order.cancelled)
    (order_eq : next.order = order.stamp clock.store)
    (payment_eq : next.payment = purchase.payment) :
    next.cancelIn t' = purchase.cancelIn t := by
  have hwithdrawn := amended.unmarked_withdrawAll coherent supplied
  have hid : order.id = purchase.order.id := Order.id_of_fixed amended.fixed
  have hnext : next.order.id = purchase.order.id := (congrArg (·.id) order_eq).trans hid
  have hcancelled : next.order.cancelled = purchase.order.cancelled.stamp clock.store := by
    rw [← cancelled_eq, order_eq]
    rfl
  have hsettled : (purchase.order.cancelled.settledOnCancel purchase.payment).1.id = order.id :=
    (Order.id_of_fixed (Order.fixed_settledOnCancel _ _)).trans hid.symm
  rw [cancelIn, hnext, hwithdrawn, hcancelled, payment_eq, Order.settledOnCancel_stamp, cancelIn,
    ← Tables.amend_amend hsettled ⟨0, 0⟩]
  rfl

end Purchase

namespace Order

variable {purchase : Purchase} {id : OrderId} {items : List OrderItem} {payment : Option Payment}
  {order : Order}

/-- A user's cancellation of which no refund is due leaves what is to be left. -/
theorem CalledOff.unmarked_eq {user : UserId} (coherent : t.Coherent) (supplied : t.Supplied)
    (lawful' : t'.Lawful) (h : CalledOff clock user id t purchase.order items purchase.payment t')
    (undue : ¬purchase.order.refundDue purchase.payment) : t'.unmarked = purchase.cancelIn t := by
  have hamended := h.amended coherent
  rw [calledOff_of_not_refundDue undue] at hamended
  exact Purchase.unmarked_of_cancelled coherent supplied lawful' hamended

/-- A user's cancellation leaves what is to be left once the refund that is due is made. -/
theorem CalledOff.unmarked_refunded {user : UserId} {found : Order} {paid : Payment}
    {stored : PaymentRow} {t'' : Tables} (lawful : t.Lawful) (supplied : t.Supplied)
    (lawful'' : t''.Lawful)
    (h : CalledOff clock user id t purchase.order items purchase.payment t')
    (due : purchase.order.refundDue purchase.payment)
    (refund : Payment.Refunded clock id t' found paid stored t'') :
    t''.unmarked = purchase.cancelIn t := by
  have hamended := h.amended lawful.coherent
  have hcoherent := lawful.coherent.amended hamended
  have hsupplied := supplied.of_sameOrders (.amended h.changed) (.amended h.changed)
  have horder := hamended.found
  rw [calledOff, if_pos due] at hamended horder
  have hfound := h.payment_found
  rw [← h.payments_of_refundDue lawful.coherent due] at hfound
  obtain rfl := id_of_found h.order_found
  obtain rfl : purchase.order.cancelled.stamp clock.store = found :=
    row_injective (Option.some.inj (horder.symm.trans refund.order_found))
  have hpaid : purchase.payment = some paid :=
    Option.map_injective Payment.row_injective (hfound.symm.trans refund.payment_found)
  let next : Purchase := { purchase with order := purchase.order.cancelled.stamp clock.store }
  have hnext : next.cancelIn t' = purchase.cancelIn t :=
    Purchase.cancelIn_of_amended lawful.coherent supplied hamended rfl rfl rfl
  have hsettled : next.order.cancelled.settledOnCancel next.payment =
      ({ next.order with paymentStatus := .refunded }, some { paid with status := .refunded }) := by
    have hdue : next.order.cancelled.refundDue next.payment := due
    rw [settledOnCancel, if_pos hdue]
    change (_, purchase.payment.map _) = _
    rw [hpaid]
    rfl
  have hrefund := refund.amended
  rw [← hsettled] at hrefund
  rw [← hnext]
  exact Purchase.unmarked_of_cancelled hcoherent hsupplied lawful'' hrefund

/-- A move to the cancelled state leaves what is to be left. -/
theorem Moved.unmarked_eq (coherent : t.Coherent) (supplied : t.Supplied) (lawful' : t'.Lawful)
    (h : Moved clock id .cancelled t purchase.order items purchase.payment t') :
    t'.unmarked = purchase.cancelIn t := by
  have hamended := h.amended coherent
  rw [moved_cancelled] at hamended
  exact Purchase.unmarked_of_cancelled coherent supplied lawful' hamended

end Order

section Steps

variable {currency : String} {step : Step} {store : Store} {purchase : Purchase} {reason : String}

theorem Purchase.cancelledOver_singleton
    (answered : (step.run currency store).answer.isError = false)
    (left : (step.run currency store).store.tables.unmarked = purchase.cancelIn store.tables) :
    purchase.CancelledOver currency [step] store :=
  ⟨List.forall_mem_singleton.mpr answered, left⟩

namespace Purchase.StoredIn

/-- An administrator cancels the purchase. -/
theorem cancelledOver_administrator (h : purchase.StoredIn store.tables)
    (ready : store.tables.Ready)
    (cancellable : purchase.order.status.canBecome .cancelled)
    (asked : step.operation? = some (.updateOrderStatus purchase.order.id .cancelled))
    (calm : step.fault = none) : purchase.CancelledOver currency [step] store := by
  obtain ⟨moved, after, hmove⟩ : Succeeds (Order.move purchase.order.id .cancelled)
      (step.context currency) (step.start store) := h.succeeds_move calm ready cancellable
  obtain ⟨hanswer, htables⟩ := Step.run_of_returns currency asked
    (returns_map.mpr ⟨moved.1, returns_announced.mpr ⟨moved, after, hmove, rfl, rfl⟩, rfl⟩)
  obtain ⟨order, items, payment, hmoved, -⟩ := Order.moved_of_returns calm hmove
  obtain rfl := h.order_eq hmoved.order_found
  obtain rfl := h.payment_eq hmoved.payment_found
  have hlawful : (step.run currency store).store.tables.Lawful :=
    Step.lawful (Step.isServed_of_operation asked) ready.lawful
  refine cancelledOver_singleton hanswer ?_
  rw [htables] at hlawful ⊢
  exact hmoved.unmarked_eq ready.lawful.coherent ready.supplied hlawful

/-- The user cancels the purchase. -/
theorem cancelledOver_user (h : purchase.StoredIn store.tables) (ready : store.tables.Ready)
    (pending : purchase.order.status = .pending)
    (asked : step.operation? = some (.cancelOrder purchase.order.userId purchase.order.id))
    (calm : step.fault = none) : purchase.CancelledOver currency [step] store := by
  have hlawful : (step.run currency store).store.tables.Lawful :=
    Step.lawful (Step.isServed_of_operation asked) ready.lawful
  obtain ⟨answer, middle, hcancel⟩ : Succeeds
      (Order.cancelPending purchase.order.userId purchase.order.id) (step.context currency)
      (step.start store) := h.succeeds_cancelPending calm ready pending
  obtain ⟨order, items, payment, hcalled, hanswered⟩ := Order.calledOff_of_returns calm hcancel
  obtain rfl := h.order_eq hcalled.order_found
  obtain rfl := h.payment_eq hcalled.payment_found
  by_cases hdue : purchase.order.refundDue purchase.payment
  · -- The cancellation is committed and announced before its refund is made.
    let announced : Progress :=
      { middle with events := middle.events ++ [.orderCancelled answer.1] }
    have calm' : announced.fault = none := hcancel.fault_eq_none calm
    obtain ⟨refunded, after, hrefund⟩ : Succeeds (Payment.refundForOrder purchase.order.id)
        (step.context currency) announced :=
      hcalled.succeeds_refund calm' ready.lawful.coherent ready.lawful.settled hdue
    have hreturns := Order.returns_cancel_of_due hcancel (by rw [hanswered]; exact hdue) hrefund
    obtain ⟨hanswer, htables⟩ :=
      Step.run_of_returns currency asked (returns_map.mpr ⟨_, hreturns, rfl⟩)
    obtain ⟨_, given, hback, -, rfl⟩ := returns_announced.mp hrefund
    obtain ⟨found, paid, stored, hrefunded, -⟩ := Payment.refunded_of_returns calm' hback
    refine cancelledOver_singleton hanswer ?_
    rw [htables] at hlawful ⊢
    exact hcalled.unmarked_refunded ready.lawful ready.supplied hlawful hdue hrefunded
  · have hreturns := Order.returns_cancel_of_not_due hcancel (by rw [hanswered]; exact hdue)
    obtain ⟨hanswer, htables⟩ :=
      Step.run_of_returns currency asked (returns_map.mpr ⟨_, hreturns, rfl⟩)
    refine cancelledOver_singleton hanswer ?_
    rw [htables] at hlawful ⊢
    exact hcalled.unmarked_eq ready.lawful.coherent ready.supplied hlawful hdue

/-- What becomes of a purchase of which an item is cancelled: it is cancelled with its last item, or
it goes on to be cancelled. -/
theorem cases_itemCancelled {user : UserId} {itemId : ItemId} {item : OrderItem}
    {items : List OrderItem} {payment : Option Payment} (h : purchase.StoredIn t) (ready : t.Ready)
    (lawful' : t'.Lawful)
    (cancelled : Order.ItemCancelled clock user purchase.order.id itemId reason t purchase.order
      item items payment t') :
    (t'.unmarked = purchase.cancelIn t ∧
        ItemRow.openIds (ItemRow.ofOrder purchase.order.id t'.orderItems) = []) ∨
      ∃ next : Purchase, next.StoredIn t' ∧ next.cancelIn t' = purchase.cancelIn t ∧
        next.order =
          Order.stamp { purchase.order with finalTotal := Order.openTotal items } clock.store := by
  have hamended := cancelled.amended
  by_cases hall : Order.allCancelled items
  · left
    obtain rfl := h.payment_eq (cancelled.payment_found hall)
    rw [Order.lessItem_of_allCancelled hall] at hamended
    have hstatus := Order.status_settledOnCancel purchase.order.cancelled purchase.payment
    exact ⟨unmarked_of_cancelled ready.lawful.coherent ready.supplied lawful' hamended,
      ItemRow.openIds_eq_nil.mpr (hamended.items_cancelled lawful' hstatus)⟩
  · right
    rw [Order.lessItem, if_neg hall] at hamended
    obtain ⟨reason, hnext⟩ := h.amended hamended Payment.followsIn_none rfl
    exact ⟨_, hnext,
      cancelIn_of_amended ready.lawful.coherent ready.supplied hamended rfl rfl rfl, rfl⟩

/-- The user cancels an open item of the purchase. -/
theorem exists_itemCancelled (h : purchase.StoredIn store.tables) (ready : store.tables.Ready)
    (cancellable : purchase.order.status.canBecome .cancelled) {item : OrderItem}
    (hitem : item ∈ purchase.items) (hopen : item.status.isCancellable)
    (asks : step.CancelsItem purchase.order.userId purchase.order.id item.id) :
    (step.run currency store).answer.isError = false ∧
      ∃ reason items payment, Order.ItemCancelled step.clock purchase.order.userId purchase.order.id
        item.id reason store.tables purchase.order item items payment
        (step.run currency store).store.tables := by
  obtain ⟨⟨reason, htext, asked⟩, calm⟩ := asks
  obtain ⟨answer, middle, hwithdraw⟩ : Succeeds
      (Order.withdrawItem purchase.order.userId purchase.order.id item.id reason)
      (step.context currency) (step.start store) :=
    h.succeeds_withdrawItem calm ready cancellable hitem hopen htext
  obtain ⟨hanswer, htables⟩ := Step.run_of_returns currency asked
    (returns_map.mpr ⟨answer, returns_announced.mpr ⟨answer, middle, hwithdraw, rfl, rfl⟩, rfl⟩)
  obtain ⟨order, found, items, payment, hcancelled, -⟩ :=
    Order.itemCancelled_of_returns calm hwithdraw
  obtain rfl := h.order_eq hcancelled.order_found
  obtain ⟨hstored, howner⟩ := h.mem_items.mp hitem
  have hfound := OrderItem.find?_of_mem ready.lawful.coherent hstored
  rw [howner] at hfound
  obtain rfl : item = found :=
    OrderItem.row_injective (Option.some.inj (hfound.symm.trans hcancelled.item_found))
  refine ⟨hanswer, reason, items, payment, ?_⟩
  rw [htables]
  exact hcancelled

/-- What is to be cancelled is an open item of the purchase. -/
theorem exists_open_item (h : purchase.StoredIn t) (coherent : t.Coherent) {id : ItemId}
    (hmem : id ∈ ItemRow.openIds (ItemRow.ofOrder purchase.order.id t.orderItems)) :
    ∃ item ∈ purchase.items, item.status.isCancellable ∧ item.id = id := by
  rw [h.items_eq] at hmem
  obtain ⟨row, hrow, rfl⟩ := List.mem_map.mp hmem
  obtain ⟨hrow, hopen⟩ := List.mem_filter.mp hrow
  obtain ⟨item, hitem, rfl⟩ := List.mem_map.mp hrow
  refine ⟨item, hitem, ?_, rfl⟩
  rcases coherent.items_status item.row (h.mem_items.mp hitem).1 with hpending | hcancelled
  · rw [ItemStatus.word_inj.mp hpending]
    rfl
  · exact absurd hcancelled (of_decide_eq_true hopen)

/-- The user cancels the open items of the purchase one after the other. -/
theorem cancelledOver_items {user : UserId} {id : OrderId} {ids : List ItemId} {steps : List Step}
    (asks : List.Forall₂ (fun item step => step.CancelsItem user id item) ids steps)
    (h : purchase.StoredIn store.tables) (ready : store.tables.Ready)
    (cancellable : purchase.order.status.canBecome .cancelled)
    (own : purchase.order.userId = user ∧ purchase.order.id = id)
    (all : ids.Perm (ItemRow.openIds (ItemRow.ofOrder id store.tables.orderItems))) :
    purchase.CancelledOver currency steps store := by
  induction asks generalizing purchase store with
  | nil =>
    -- An order of which nothing is open is cancelled, and cannot be cancelled again.
    have hnone := ItemRow.openIds_eq_nil.mp all.nil_eq.symm
    rw [← own.2] at hnone
    have hstatus := (ready.lawful.totalled purchase.order.row h.order_mem).cancelled_iff.mpr hnone
    obtain ⟨-, -, hopen⟩ := OrderStatus.canBecome_cancelled.mp cancellable
    exact absurd (OrderStatus.word_inj.mp hstatus) hopen
  | @cons itemId step rest steps hasks hothers ih =>
    obtain ⟨rfl, rfl⟩ := own
    obtain ⟨item, hitem, hopen, rfl⟩ :=
      h.exists_open_item ready.lawful.coherent (all.mem_iff.mp List.mem_cons_self)
    obtain ⟨hanswer, reason, items, payment, hcancelled⟩ :
        (step.run currency store).answer.isError = false ∧
          ∃ reason items payment, Order.ItemCancelled step.clock purchase.order.userId
            purchase.order.id item.id reason store.tables purchase.order item items payment
            (step.run currency store).store.tables :=
      h.exists_itemCancelled ready cancellable hitem hopen hasks
    obtain ⟨⟨_, -, asked⟩, -⟩ := hasks
    have hready := Step.ready currency ready asked rfl
    have hrest := perm_filter_ne all (ItemRow.nodup_openIds ready.lawful.coherent _)
    rw [← hcancelled.openIds_eq] at hrest
    rcases h.cases_itemCancelled ready hready.lawful hcancelled with
      ⟨hleft, hnone⟩ | ⟨next, hnext, hsame, horder⟩
    · rw [hnone] at hrest
      obtain rfl := hrest.eq_nil
      cases hothers
      exact cancelledOver_singleton hanswer hleft
    · have hcancellable : next.order.status.canBecome .cancelled := by
        rw [horder]
        exact cancellable
      obtain ⟨hanswers, hleft⟩ := ih hnext hready hcancellable
        ⟨congrArg (·.userId) horder, congrArg (·.id) horder⟩ hrest
      exact ⟨List.forall_mem_cons.mpr ⟨hanswer, hanswers⟩, hleft.trans hsame⟩

/-- Whichever way the purchase is cancelled, it is cancelled with success and to the same effect. -/
theorem cancelledOver (h : purchase.StoredIn store.tables) (ready : store.tables.Ready)
    (cancellable : purchase.order.status.canBecome .cancelled) {way : List Step}
    (hway : purchase.order.row.CancelledBy store.tables way) :
    purchase.CancelledOver currency way store := by
  cases hway with
  | administrator asked calm => exact h.cancelledOver_administrator ready cancellable asked calm
  | user pending asked calm =>
    exact h.cancelledOver_user ready (OrderStatus.word_inj.mp pending) asked calm
  | items all asked => exact h.cancelledOver_items asked ready cancellable ⟨rfl, rfl⟩ all

end Purchase.StoredIn
end Steps

/-- Wherever a run that began without orders has come to, all ways to cancel an order that is
pending, confirmed or partially cancelled succeed, and any two of them leave the same tables but for
the marks of cancellations: its items, the stock of every product, the order and its payment are the
same afterwards, and so is everything else. -/
theorem cancellations_agree (currency : String) (steps : List Step) (start : Store)
    (served : ∀ step ∈ steps, step.IsServed) (constrained : start.tables.Constrained)
    (orders : start.tables.orders = []) :
    ∀ order ∈ (storeAfter currency steps start).tables.orders,
      order.status ∈ [word OrderStatus.pending, word OrderStatus.confirmed,
        word OrderStatus.partiallyCancelled] →
      ∀ way other : List Step,
        order.CancelledBy (storeAfter currency steps start).tables way →
        order.CancelledBy (storeAfter currency steps start).tables other →
        (∀ outcome ∈ run currency way (storeAfter currency steps start),
            outcome.answer.isError = false) ∧
          (storeAfter currency way (storeAfter currency steps start)).tables.unmarked =
            (storeAfter currency other (storeAfter currency steps start)).tables.unmarked := by
  have hready := ready_storeAfter currency served constrained orders
  intro row hrow hstatus way other hway hother
  obtain ⟨purchase, rfl, hstored⟩ := Purchase.StoredIn.exists_of_mem hready.lawful hrow
  have hcancellable : purchase.order.status.canBecome .cancelled := by
    simp only [Order.row, List.mem_cons, OrderStatus.word_inj, List.not_mem_nil,
      or_false] at hstatus
    rcases hstatus with hpending | hconfirmed | hpartly
    · rw [hpending]
      rfl
    · rw [hconfirmed]
      rfl
    · rw [hpartly]
      rfl
  have hcancelled : purchase.CancelledOver currency way (storeAfter currency steps start) :=
    hstored.cancelledOver hready hcancellable hway
  have hagreed : purchase.CancelledOver currency other (storeAfter currency steps start) :=
    hstored.cancelledOver hready hcancellable hother
  exact ⟨hcancelled.1, hcancelled.2.trans hagreed.2.symm⟩

/-- A purchase of two products that is paid for through a gateway. -/
def Step.paidForTwo : List Step :=
  [ofCall (.placeDirect 7 6 .cod [⟨3, 2⟩, ⟨4, 1⟩]), ofCall (.createIntent 7 1 .razorpay),
    ofCall (.confirmPayment "razorpay_order_00000000000040008000000000000001" "success")]

/-- Its items are cancelled one after the other, the last one first. -/
def Step.backwards : List Step :=
  [ofCall (.cancelItem 7 1 2 "Too dear"), ofCall (.cancelItem 7 1 1 "Too many")]

/-- The money goes back whichever way the purchase is cancelled. -/
theorem cancellations_paidForTwo :
    (storeAfter "INR" (Step.paidForTwo ++ Step.backwards) .stocked).tables.payments.map (·.status) =
        ["refunded"] ∧
      ∀ way ∈ [[Step.ofCall (.updateOrderStatus 1 .cancelled)], [Step.ofCall (.cancelOrder 7 1)]],
        (∀ outcome ∈ run "INR" way (storeAfter "INR" Step.paidForTwo .stocked),
            outcome.answer.isError = false) ∧
          (storeAfter "INR" way (storeAfter "INR" Step.paidForTwo .stocked)).tables.unmarked =
            (storeAfter "INR" Step.backwards
              (storeAfter "INR" Step.paidForTwo .stocked)).tables.unmarked := by
  have hserved : ∀ step ∈ Step.paidForTwo, step.IsServed := by
    simp [Step.paidForTwo, Step.isServed_ofCall]
  obtain ⟨order, horder, hid, huser, hstatus⟩ :
      ∃ order ∈ (storeAfter "INR" Step.paidForTwo .stocked).tables.orders,
        order.id = 1 ∧ order.userId = 7 ∧ order.status = word OrderStatus.pending := by
    decide +kernel
  have hall : [2, 1].Perm (ItemRow.openIds (ItemRow.ofOrder 1
      (storeAfter "INR" Step.paidForTwo .stocked).tables.orderItems)) := by decide +kernel
  have hbackwards : order.CancelledBy (storeAfter "INR" Step.paidForTwo .stocked).tables
      Step.backwards := by
    refine .items (hid ▸ hall) ?_
    rw [hid, huser]
    exact .cons ⟨⟨"Too dear", by decide, rfl⟩, rfl⟩ (.cons ⟨⟨"Too many", by decide, rfl⟩, rfl⟩ .nil)
  refine ⟨by decide +kernel, fun way hway => ?_⟩
  have hcancels : order.CancelledBy (storeAfter "INR" Step.paidForTwo .stocked).tables way := by
    rcases List.mem_pair.mp hway with rfl | rfl
    · exact .administrator (by rw [hid]; rfl) rfl
    · exact .user hstatus (by rw [hid, huser]; rfl) rfl
  exact cancellations_agree "INR" Step.paidForTwo .stocked hserved Store.constrained_stocked
    rfl order
    horder (by rw [hstatus]; exact List.mem_cons_self) way Step.backwards hcancels hbackwards

end Storefront
