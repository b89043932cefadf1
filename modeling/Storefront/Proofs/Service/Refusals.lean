import Storefront.Proofs.Order.Refusals
import Storefront.Proofs.Purchase.Completion

/-!
What calls are answered that fail. Whatever state a run has come to, every row can be read and
written back, every product of an item is there and every new identifier is free. So a call that
meets no fault fails for what is wrong with it, and the store itself only turns down texts and sums
that no column could hold.
-/

namespace Storefront

open Session

/-- An error that tells what is wrong with a call. The others say that the store failed, and that a
product is missing. -/
def Error.IsExpected : Error → Prop
  | .internal => False
  | .productNotFound _ => False
  | _ => True

variable {context : Context} {p : Progress} {cause : Error} {user : UserId} {id : OrderId}

/-- An order that is asked for is missing, or it is read with its items and its payment. -/
theorem Purchase.fails_onOrder {α : Type} {next : Order → Session α} (calm : p.fault = none)
    (lawful : p.tables.Lawful)
    (h : Fails (do next (← Session.found .notFound (← Order.find id))) context p cause) :
    cause = .notFound ∨ ∃ purchase : Purchase, purchase.StoredIn p.tables ∧
      purchase.order.id = id ∧ Fails (next purchase.order) context p cause := by
  cases hrow : p.tables.orders.find? fun row => row.id = id with
  | none =>
    have hfind : Returns (Order.find id) context p none p :=
      (Order.returns_find calm).mpr ⟨hrow, rfl⟩
    rw [hfind.fails_bind, fails_bind_found] at h
    rcases h with ⟨-, hcause⟩ | ⟨order, hsome, -⟩
    · exact .inl hcause
    · cases hsome
  | some row =>
    obtain ⟨hstored, hid⟩ := mem_of_find?_key hrow
    obtain ⟨purchase, rfl, hpurchase⟩ := StoredIn.exists_of_mem lawful hstored
    have hfind : Returns (Order.find id) context p (some purchase.order) p :=
      (Order.returns_find calm).mpr ⟨hrow, rfl⟩
    rw [hfind.fails_bind, fails_bind_found] at h
    rcases h with ⟨hnone, -⟩ | ⟨order, hsome, h⟩
    · cases hnone
    · cases hsome
      exact .inr ⟨purchase, hpurchase, hid, h⟩

namespace Purchase.StoredIn

variable {purchase : Purchase} {item : OrderItem} {itemId : ItemId}

/-- An item that is asked for is missing, or it is one of the order's. -/
theorem fails_onItem {α : Type} {next : OrderItem → Session α}
    (hpurchase : purchase.StoredIn p.tables)
    (calm : p.fault = none) (lawful : p.tables.Lawful)
    (h : Fails (do next (← Session.found .notFound (← OrderItem.find purchase.order.id itemId)))
      context p cause) :
    cause = .notFound ∨ ∃ item ∈ purchase.items, item.id = itemId ∧
      Fails (next item) context p cause := by
  cases hrow : p.tables.orderItems.find? fun row =>
      row.id = itemId && row.orderId = purchase.order.id with
  | none =>
    have hfind : Returns (OrderItem.find purchase.order.id itemId) context p none p :=
      (OrderItem.returns_find calm).mpr ⟨hrow, rfl⟩
    rw [hfind.fails_bind, fails_bind_found] at h
    rcases h with ⟨-, hcause⟩ | ⟨item, hsome, -⟩
    · exact .inl hcause
    · cases hsome
  | some row =>
    have hstored := List.mem_of_find?_eq_some hrow
    obtain ⟨item, rfl⟩ := lawful.coherent.items_read row hstored
    have hfind : Returns (OrderItem.find purchase.order.id itemId) context p (some item) p :=
      (OrderItem.returns_find calm).mpr ⟨hrow, rfl⟩
    rw [hfind.fails_bind, fails_bind_found] at h
    rcases h with ⟨hnone, -⟩ | ⟨found, hsome, h⟩
    · cases hnone
    obtain rfl := Option.some.inj hsome
    have hkeys := List.find?_some hrow
    rw [Bool.and_eq_true, decide_eq_true_eq, decide_eq_true_eq] at hkeys
    obtain ⟨hid, howner⟩ : item.id = itemId ∧ item.orderId = purchase.order.id := hkeys
    exact .inr ⟨item, hpurchase.mem_items.mpr ⟨hstored, howner⟩, hid, h⟩

/-- An order with an open item that has not been shipped can be cancelled. -/
theorem canBecome_cancelled (h : purchase.StoredIn p.tables) (lawful : p.tables.Lawful)
    (hitem : item ∈ purchase.items) (hopen : item.status.isCancellable)
    (unshipped : purchase.order.status ≠ .shipped)
    (undelivered : purchase.order.status ≠ .delivered) :
    purchase.order.status.canBecome .cancelled := by
  refine OrderStatus.canBecome_cancelled.mpr ⟨unshipped, undelivered, fun hcancelled => ?_⟩
  rw [(h.cancelled_iff lawful).mp hcancelled item hitem] at hopen
  cases hopen

end Purchase.StoredIn

namespace Order

/-- A session that asks for the owner of an order fails because of another user, or later. -/
theorem fails_requireOwner {α : Type} {order : Order} {next : Unit → Session α}
    (h : Fails (requireOwner user order >>= next) context p cause) :
    cause.IsExpected ∨ order.userId = user ∧ Fails (next ()) context p cause := by
  rw [requireOwner, fails_bind_require] at h
  rcases h with ⟨-, rfl⟩ | ⟨howner, h⟩
  · exact .inl trivial
  · exact .inr ⟨of_decide_eq_true howner, h⟩

/-- An order is read with its details, or there is none. -/
theorem details_cases (calm : p.fault = none) (coherent : p.tables.Coherent) (id : OrderId) :
    (∃ found, Returns (details id) context p found p) ∨
      ∀ cause, Fails (details id) context p cause → cause.IsExpected := by
  cases hrow : p.tables.orders.find? fun row => row.id = id with
  | none =>
    right
    intro cause h
    have hfind : Returns (find id) context p none p := (returns_find calm).mpr ⟨hrow, rfl⟩
    have hnone : Returns (OrderDetails.find id) context p none p :=
      returns_bind.mpr ⟨none, p, hfind, returns_pure.mpr ⟨rfl, rfl⟩⟩
    rw [details, hnone.fails_bind] at h
    obtain ⟨-, rfl⟩ := fails_found.mp h
    trivial
  | some row =>
    left
    obtain ⟨hstored, hid⟩ := mem_of_find?_key hrow
    obtain ⟨order, rfl⟩ := coherent.orders_read row hstored
    obtain ⟨items, hlisted⟩ := OrderItem.exists_listedIn coherent order.id
    have hsame : order.id = id := hid
    rw [← hsame] at hrow ⊢
    have hread : OrderDetails.StoredIn ⟨order, items, order.shippingAddressId.bind fun id =>
        p.tables.orderAddresses.find? fun copy => copy.id = id⟩ p.tables := ⟨hrow, hlisted, rfl⟩
    exact ⟨_, (returns_details calm).mpr ⟨rfl, hread, rfl⟩⟩

theorem expected_of_fails_details (h : Fails (details id) context p cause) (calm : p.fault = none)
    (coherent : p.tables.Coherent) : cause.IsExpected := by
  rcases details_cases calm coherent id with ⟨found, hfound⟩ | hexpected
  · exact absurd h hfound.succeeds.not_fails
  · exact hexpected cause h

theorem expected_of_fails_detailsFor (h : Fails (detailsFor user id) context p cause)
    (calm : p.fault = none) (coherent : p.tables.Coherent) : cause.IsExpected := by
  rw [detailsFor, fails_bind] at h
  rcases h with h | ⟨found, middle, -, h⟩
  · exact expected_of_fails_details h calm coherent
  · rcases fails_requireOwner h with hexpected | ⟨-, h⟩
    · exact hexpected
    · exact absurd h not_fails_pure

theorem expected_of_fails_itemsFor (h : Fails (itemsFor user id) context p cause)
    (calm : p.fault = none) (lawful : p.tables.Lawful) : cause.IsExpected := by
  rcases Purchase.fails_onOrder calm lawful h with rfl | ⟨purchase, -, -, h⟩
  · trivial
  rcases fails_requireOwner h with hexpected | ⟨-, h⟩
  · exact hexpected
  obtain ⟨items, hlisted⟩ := OrderItem.exists_listedIn lawful.coherent id
  have hread : Succeeds (OrderItem.listFor id) context p :=
    ⟨items, p, (OrderItem.returns_listFor calm).mpr ⟨hlisted, rfl⟩⟩
  exact absurd h hread.not_fails

/-- Any orders can be read. -/
theorem not_fails_readRows (coherent : p.tables.Coherent) {rows : List OrderRow}
    (stored : ∀ row ∈ rows, row ∈ p.tables.orders) :
    ¬ Fails (readRows OrderRow.order? rows) context p cause := by
  refine Session.not_fails_readRows fun row hrow => ?_
  obtain ⟨order, rfl⟩ := coherent.orders_read row (stored row hrow)
  simp

theorem not_fails_listAll (calm : p.fault = none) (coherent : p.tables.Coherent) :
    ¬ Fails listAll context p cause := by
  unfold listAll
  have hrows : Returns (Table.orders.select fun _ => true) context p
      (p.tables.orders.filter fun _ => true) p := (Table.returns_select calm).mpr ⟨rfl, rfl⟩
  rw [hrows.fails_bind]
  refine not_fails_readRows coherent fun row hrow => ?_
  exact (List.mem_filter.mp (mem_sortBy.mp hrow)).1

theorem expected_of_fails_pageFor {page limit : Int}
    (h : Fails (pageFor user page limit) context p cause) (calm : p.fault = none)
    (coherent : p.tables.Coherent) : cause.IsExpected := by
  rw [pageFor, fails_bind_require] at h
  rcases h with ⟨-, rfl⟩ | ⟨-, h⟩
  · trivial
  rw [fails_bind_require] at h
  rcases h with ⟨-, rfl⟩ | ⟨-, h⟩
  · trivial
  have hrows : Returns (Table.orders.select fun row => row.userId = user) context p
      (p.tables.orders.filter fun row => row.userId = user) p :=
    (Table.returns_select calm).mpr ⟨rfl, rfl⟩
  rcases fails_bind.mp h with h | ⟨orders, middle, hlist, h⟩
  · rw [listFor, hrows.fails_bind] at h
    refine absurd h (not_fails_readRows coherent fun row hrow => ?_)
    have hlisted := List.mem_of_mem_drop (List.mem_of_mem_take hrow)
    exact (List.mem_filter.mp (mem_sortBy.mp hlisted)).1
  · have hcalm : middle.fault = none := hlist.fault_eq_none calm
    simp [countFor, hcalm] at h

end Order

namespace Payment

theorem expected_of_fails_findForUser (h : Fails (findForUser user id) context p cause)
    (calm : p.fault = none) (lawful : p.tables.Lawful) : cause.IsExpected := by
  rcases Purchase.fails_onOrder calm lawful h with rfl | ⟨purchase, hpurchase, rfl, h⟩
  · trivial
  rcases Order.fails_requireOwner h with hexpected | ⟨-, h⟩
  · exact hexpected
  rw [(hpurchase.returns_findPayment calm).fails_bind, fails_found] at h
  obtain ⟨-, rfl⟩ := h
  trivial

theorem expected_of_fails_giveBack (h : Fails (giveBack id) context p cause) (calm : p.fault = none)
    (ready : p.tables.Ready) : cause.IsExpected := by
  have hfails := h
  rw [giveBack, fails_transaction] at hfails
  rcases Purchase.fails_onOrder calm ready.lawful hfails
    with rfl | ⟨purchase, hpurchase, rfl, hrest⟩
  · trivial
  rw [(hpurchase.returns_findPayment calm).fails_bind, fails_bind_found] at hrest
  rcases hrest with ⟨-, rfl⟩ | ⟨payment, hpayment, hrest⟩
  · trivial
  by_cases hpaid : payment.status = .paid
  · obtain ⟨answer, last, hdone⟩ : Succeeds (refundForOrder purchase.order.id) context p :=
      hpurchase.succeeds_refundForOrder calm ready hpayment hpaid
    obtain ⟨refunded, middle, hback, -⟩ := returns_bind.mp hdone
    exact absurd h hback.succeeds.not_fails
  · rw [refund, if_neg hpaid] at hrest
    rcases fails_bind.mp hrest with hthrow | ⟨refunded, middle, hreturn, -⟩
    · rw [fails_throw.mp hthrow]
      trivial
    · exact absurd hreturn not_returns_throw

end Payment

namespace Order

variable {itemId : ItemId} {reason : String} {next : OrderStatus}

/-- An item that is not cancelled for a reason which no column can hold fails because of it. -/
theorem cause_of_fails_cancelOne {now : Instant} {item : OrderItem}
    (h : Fails (cancelOne reason now item) context p cause) (calm : p.fault = none)
    (text : ¬fitsText reason) : cause.IsExpected ∨ cause = .internal := by
  rw [cancelOne, fails_bind, fails_discard] at h
  rcases h with h | ⟨⟨⟩, middle, hsave, -⟩
  · rw [OrderItem.save, (returns_storeTime.mpr ⟨rfl, rfl⟩).fails_bind, fails_bind,
      Table.fails_update calm] at h
    rcases h with (⟨-, rfl⟩ | ⟨-, -, -, rfl⟩) | ⟨row, middle, -, h⟩
    · exact .inl trivial
    · exact .inr rfl
    · exact .inr (fails_found.mp h).2
  · obtain ⟨saved, hsave⟩ := returns_discard.mp hsave
    obtain ⟨-, -, hfits, -⟩ := (OrderItem.returns_save calm).mp hsave
    exact absurd hfits text

theorem cause_of_fails_withdrawItem (h : Fails (withdrawItem user id itemId reason) context p cause)
    (calm : p.fault = none) (ready : p.tables.Ready) :
    cause.IsExpected ∨ cause = .internal ∧ ¬fitsText reason := by
  have hfails := h
  rw [withdrawItem, fails_transaction] at hfails
  rcases Purchase.fails_onOrder calm ready.lawful hfails
    with rfl | ⟨purchase, hpurchase, rfl, hrest⟩
  · exact .inl trivial
  rcases fails_requireOwner hrest with hexpected | ⟨rfl, howned⟩
  · exact .inl hexpected
  rw [fails_bind_require] at howned
  rcases howned with ⟨-, rfl⟩ | ⟨hunshipped, hrest⟩
  · exact .inl trivial
  rcases hpurchase.fails_onItem calm ready.lawful hrest with rfl | ⟨item, hitem, rfl, hwithdraw⟩
  · exact .inl trivial
  rw [fails_bind_require] at hwithdraw
  rcases hwithdraw with ⟨-, rfl⟩ | ⟨hopen, hcancel⟩
  · exact .inl trivial
  rw [Bool.and_eq_true, decide_eq_true_eq, decide_eq_true_eq] at hunshipped
  have hmay :=
    hpurchase.canBecome_cancelled ready.lawful hitem hopen hunshipped.1 hunshipped.2
  by_cases text : fitsText reason
  · exact absurd h (hpurchase.succeeds_withdrawItem calm ready hmay hitem hopen text).not_fails
  · have htime : Returns wallTime context p context.clock.wall p := returns_wallTime.mpr ⟨rfl, rfl⟩
    rw [htime.fails_bind] at hcancel
    rcases fails_bind.mp hcancel with hone | ⟨⟨⟩, middle, hone, -⟩
    · exact (cause_of_fails_cancelOne hone calm text).imp_right fun hcause => ⟨hcause, text⟩
    · obtain ⟨-, -, -, hfits, -⟩ := (returns_cancelOne calm).mp hone
      exact absurd hfits text

theorem expected_of_fails_cancelPending (h : Fails (cancelPending user id) context p cause)
    (calm : p.fault = none) (ready : p.tables.Ready) : cause.IsExpected := by
  have hfails := h
  rw [cancelPending, fails_transaction] at hfails
  rcases Purchase.fails_onOrder calm ready.lawful hfails
    with rfl | ⟨purchase, hpurchase, rfl, hrest⟩
  · trivial
  rcases fails_requireOwner hrest with hexpected | ⟨rfl, howned⟩
  · exact hexpected
  rw [fails_bind_require] at howned
  rcases howned with ⟨-, rfl⟩ | ⟨hpending, -⟩
  · trivial
  exact absurd h
    (hpurchase.succeeds_cancelPending calm ready (of_decide_eq_true hpending)).not_fails

theorem expected_of_fails_move (h : Fails (move id next) context p cause) (calm : p.fault = none)
    (ready : p.tables.Ready) : cause.IsExpected := by
  have hfails := h
  rw [move, fails_transaction] at hfails
  rcases Purchase.fails_onOrder calm ready.lawful hfails
    with rfl | ⟨purchase, hpurchase, rfl, hrest⟩
  · trivial
  rw [fails_bind_require] at hrest
  rcases hrest with ⟨-, rfl⟩ | ⟨hallowed, -⟩
  · trivial
  exact absurd h (hpurchase.succeeds_moveTo calm ready hallowed).not_fails

/-! What follows the transaction of a call is announced, and never fails. -/

theorem cause_of_fails_cancelItem (h : Fails (cancelItem user id itemId reason) context p cause)
    (calm : p.fault = none) (ready : p.tables.Ready) :
    cause.IsExpected ∨ cause = .internal ∧ ¬fitsText reason := by
  refine cause_of_fails_withdrawItem ((fails_bind_total fun order => ?_).mp h) calm ready
  exact total_announced (.orderItemCancelled order itemId) order

theorem expected_of_fails_cancel (h : Fails (cancel user id) context p cause)
    (calm : p.fault = none)
    (ready : p.tables.Ready) : cause.IsExpected :=
  expected_of_fails_cancelPending ((fails_bind_total (total_afterCancellation id)).mp h) calm ready

theorem expected_of_fails_updateStatus (h : Fails (updateStatus id next) context p cause)
    (calm : p.fault = none) (ready : p.tables.Ready) : cause.IsExpected := by
  refine expected_of_fails_move ((fails_bind_total fun moved => ?_).mp h) calm ready
  exact total_announced (.orderStatusChanged moved.1 moved.2) moved.1

end Order

namespace Payment

variable {reference reported : String} {method : PaymentMethod} {currency : String}

theorem expected_of_fails_refundForOrder (h : Fails (refundForOrder id) context p cause)
    (calm : p.fault = none) (ready : p.tables.Ready) : cause.IsExpected := by
  refine expected_of_fails_giveBack ((fails_bind_total fun refunded => ?_).mp h) calm ready
  exact total_announced (.paymentUpdated refunded) refunded

/-- A callback that decides nothing is told what is wrong with the payment or with the report. -/
theorem expected_of_decideConfirmation {order : OrderStatus} {current : PaymentStatus}
    (h : decideConfirmation order current reported = .error cause) : cause.IsExpected := by
  obtain ⟨message, rfl⟩ := invalid_of_decideConfirmation h
  trivial

/-- A payment that is asked for by its reference is missing, or it is read with its order. -/
theorem fails_onReference {α : Type} {next : Order → Payment → Session α} (calm : p.fault = none)
    (lawful : p.tables.Lawful) (text : fitsText reference)
    (h : Fails (do
      let found ← Session.found .paymentNotFound (← findByGateway reference)
      let order ← Session.found .notFound (← Order.find found.orderId)
      let payment ← Session.found .paymentNotFound (← find found.id)
      next order payment) context p cause) :
    cause = .paymentNotFound ∨ ∃ (purchase : Purchase) (payment : Payment),
      purchase.StoredIn p.tables ∧ payment.row ∈ p.tables.payments ∧
        Fails (next purchase.order payment) context p cause := by
  cases hrow : p.tables.payments.find? fun row => row.gatewayId = some reference with
  | none =>
    have hfind : Returns (findByGateway reference) context p none p :=
      (returns_findByGateway calm).mpr ⟨text, hrow, rfl⟩
    rw [hfind.fails_bind, fails_bind_found] at h
    rcases h with ⟨-, hcause⟩ | ⟨payment, hsome, -⟩
    · exact .inl hcause
    · cases hsome
  | some row =>
    obtain ⟨purchase, payment, rfl, hpayment, hpurchase⟩ :=
      Purchase.StoredIn.exists_of_mem_payments lawful (List.mem_of_find?_eq_some hrow)
    obtain ⟨hstored, howner⟩ := hpurchase.mem_payments.mp hpayment
    have horder : p.tables.orders.find? (fun row => row.id = payment.orderId) =
        some purchase.order.row := by
      rw [howner]
      exact hpurchase.order_found
    have hagain : p.tables.payments.find? (fun row => row.id = payment.id) = some payment.row :=
      (find?_key_iff lawful.settled.sound.key).mpr ⟨hstored, rfl⟩
    rw [Fails, exec_onReference calm text hrow horder hagain] at h
    exact .inr ⟨purchase, payment, hpurchase, hstored, h⟩

/-- A callback whose payment and order are read can do whatever it decides to do. -/
theorem cause_of_fails_applyCallback
    (h : Fails (applyCallback reference reported) context p cause) (calm : p.fault = none)
    (ready : p.tables.Ready) : cause.IsExpected ∨ cause = .internal ∧ ¬fitsText reference := by
  rw [applyCallback, fails_transaction] at h
  by_cases text : fitsText reference
  case neg =>
    rcases fails_bind.mp h with hfind | ⟨found, middle, hfind, -⟩
    · rw [findByGateway, fails_bind, fails_constraint] at hfind
      rcases hfind with ⟨-, hcause⟩ | ⟨⟨⟩, middle, hfits, -⟩
      · exact .inr ⟨hcause, text⟩
      · exact absurd (returns_constraint.mp hfits).1 text
    · exact absurd ((returns_findByGateway calm).mp hfind).1 text
  left
  have hsound := ready.lawful.settled.sound
  rcases fails_onReference calm ready.lawful text h with
    rfl | ⟨purchase, payment, hpurchase, hstored, hrest⟩
  · trivial
  rcases fails_bind.mp hrest with hrefused | ⟨confirmation, middle, hdecided, happly⟩
  · exact expected_of_decideConfirmation (fails_ofExcept.mp hrefused)
  rw [(returns_ofExcept.mp hdecided).2] at happly
  cases confirmation with
  | alreadyPaid => exact absurd happly not_fails_pure
  | paid =>
    obtain ⟨paid, last, hsettle⟩ : Succeeds (settle purchase.order payment) context p :=
      succeeds_settle calm hsound hpurchase.order_found hstored (hpurchase.total_fits ready)
    exact absurd (hsettle.fails_bind.mp happly) not_fails_pure
  | failed =>
    have hfollows : payment.Follows (payment.confirmed .failed context.clock.wall) :=
      ⟨rfl, rfl, rfl⟩
    obtain ⟨failed, last, hsave⟩ :
        Succeeds (save (payment.confirmed .failed context.clock.wall)) context p :=
      succeeds_save_of_follows calm hsound hstored hfollows
    exact absurd (hsave.fails_bind.mp happly) not_fails_pure

theorem cause_of_fails_confirm (h : Fails (confirm reference reported) context p cause)
    (calm : p.fault = none) (ready : p.tables.Ready) :
    cause.IsExpected ∨ cause = .internal ∧ ¬fitsText reference :=
  cause_of_fails_applyCallback ((fails_bind_total total_afterCallback).mp h) calm ready

theorem eq_internal_of_fails_create {amount : Cents} (calm : p.fault = none)
    (h : Fails (create id method amount currency) context p cause) : cause = .internal := by
  rw [create, (returns_storeTime.mpr ⟨rfl, rfl⟩).fails_bind,
    (returns_sequences.mpr ⟨rfl, rfl⟩).fails_bind] at h
  simp only [fails_bind, Table.fails_insert calm, not_fails_pure, and_false, exists_false,
    or_false] at h
  exact h.2

theorem cause_of_fails_openIntent (h : Fails (openIntent user id method currency) context p cause)
    (calm : p.fault = none) (ready : p.tables.Ready)
    (referenced : ∀ payment : Payment, payment.row ∈ p.tables.payments → payment.Referenced)
    (fresh : ∀ row ∈ p.tables.payments, row.id ≠ Uuid.numbered p.sequences.payment) :
    cause.IsExpected ∨ cause = .internal ∧ ¬fitsVarchar 8 currency := by
  have hfails := h
  rw [openIntent, fails_transaction] at hfails
  rcases Purchase.fails_onOrder calm ready.lawful hfails
    with rfl | ⟨purchase, hpurchase, rfl, hrest⟩
  · exact .inl trivial
  rcases Order.fails_requireOwner hrest with hexpected | ⟨rfl, howned⟩
  · exact .inl hexpected
  rw [fails_bind_require] at howned
  rcases howned with ⟨-, rfl⟩ | ⟨hpending, hfree⟩
  · exact .inl trivial
  rw [(hpurchase.returns_findPayment calm).fails_bind, fails_bind_require] at hfree
  rcases hfree with ⟨-, rfl⟩ | ⟨hnone, hcreate⟩
  · exact .inl trivial
  by_cases hfits : fitsVarchar 8 currency
  · have hunpaid := hpurchase.payment_found
    rw [Option.isNone_iff_eq_none.mp hnone] at hunpaid
    exact absurd h (succeeds_openIntent calm ready.lawful.settled.sound hpurchase.order_found
      (of_decide_eq_true hpending) hunpaid referenced fresh (hpurchase.total_fits ready)
      hfits).not_fails
  · rcases fails_bind.mp hcreate with hcreate | ⟨payment, middle, hcreate, -⟩
    · exact .inr ⟨eq_internal_of_fails_create calm hcreate, hfits⟩
    · obtain ⟨-, -, hcurrency, -⟩ := returns_create calm hcreate
      exact absurd hcurrency hfits

theorem cause_of_fails_createIntent (h : Fails (createIntent user id method) context p cause)
    (calm : p.fault = none) (ready : p.tables.Ready)
    (referenced : ∀ payment : Payment, payment.row ∈ p.tables.payments → payment.Referenced)
    (fresh : ∀ row ∈ p.tables.payments, row.id ≠ Uuid.numbered p.sequences.payment) :
    cause.IsExpected ∨ cause = .internal ∧ ¬fitsVarchar 8 context.currency := by
  have hread : Returns read context p context p := returns_read.mpr ⟨rfl, rfl⟩
  rw [createIntent, hread.fails_bind] at h
  refine cause_of_fails_openIntent ((fails_bind_total fun intent => ?_).mp h) calm ready referenced
    fresh
  exact total_announced (.paymentUpdated intent.payment) intent

end Payment

end Storefront
