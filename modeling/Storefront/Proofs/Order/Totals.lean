import Storefront.Proofs.Catalog.Pricing
import Storefront.Proofs.Order.Coherence

/-!
Totals of orders. In every state of a run an order comes to what its open items come to, and it is
cancelled exactly when all of them are.
-/

namespace Storefront

/-- The items of an order. -/
def ItemRow.ofOrder (id : OrderId) (rows : List ItemRow) : List ItemRow :=
  rows.filter fun row => row.orderId = id

/-- What the items that are not cancelled come to. -/
def ItemRow.openTotal (rows : List ItemRow) : Cents :=
  ((rows.filter fun row => row.status ≠ word ItemStatus.cancelled).map (·.subtotal)).sum

/-- An order comes to what its open items come to, and it is cancelled when all its items are. -/
structure OrderRow.Totalled (order : OrderRow) (items : List ItemRow) : Prop where
  total_eq : order.finalTotal = ItemRow.openTotal items
  cancelled_iff : order.status = word OrderStatus.cancelled ↔
    ∀ item ∈ items, item.status = word ItemStatus.cancelled

/-- Every order is totalled by its items. -/
def Tables.Totalled (t : Tables) : Prop :=
  ∀ order ∈ t.orders, order.Totalled (ItemRow.ofOrder order.id t.orderItems)

theorem Order.openTotal_eq_sum (items : List OrderItem) : openTotal items =
    ((items.filter fun item => item.status ≠ .cancelled).map (·.subtotal)).sum :=
  foldr_add_eq_sum _ _

namespace ItemRow

theorem openTotal_perm {rows others : List ItemRow} (h : rows.Perm others) :
    openTotal rows = openTotal others :=
  ((h.filter _).map _).sum_eq

theorem openTotal_eq_zero {rows : List ItemRow}
    (h : ∀ row ∈ rows, row.status = word ItemStatus.cancelled) : openTotal rows = 0 := by
  have hnone : rows.filter (fun row => row.status ≠ word ItemStatus.cancelled) = [] := by
    apply List.filter_eq_nil_iff.mpr
    intro row hrow
    simp [h row hrow]
  rw [openTotal, hnone]
  rfl

theorem openTotal_map_row (items : List OrderItem) :
    openTotal (items.map OrderItem.row) = Order.openTotal items := by
  have hopen :
      items.filter
        ((fun row : ItemRow => decide (row.status ≠ word ItemStatus.cancelled)) ∘ OrderItem.row) =
      items.filter fun item => item.status ≠ .cancelled :=
    List.filter_congr fun item _ => decide_eq_decide.mpr (not_congr ItemStatus.word_inj)
  rw [openTotal, Order.openTotal_eq_sum, List.filter_map, hopen, List.map_map]
  rfl

end ItemRow

namespace OrderRow.Totalled

variable {order next : OrderRow} {items : List ItemRow}

theorem congr (h : order.Totalled items) (htotal : next.finalTotal = order.finalTotal)
    (hstatus : next.status = word OrderStatus.cancelled ↔
      order.status = word OrderStatus.cancelled) : next.Totalled items :=
  ⟨htotal.trans h.total_eq, hstatus.trans h.cancelled_iff⟩

/-- A cancelled order that comes to nothing is totalled by cancelled items. -/
theorem of_cancelled (htotal : order.finalTotal = 0)
    (hstatus : order.status = word OrderStatus.cancelled)
    (hitems : ∀ item ∈ items, item.status = word ItemStatus.cancelled) : order.Totalled items :=
  ⟨htotal.trans (ItemRow.openTotal_eq_zero hitems).symm, iff_of_true hstatus hitems⟩

end OrderRow.Totalled

namespace Order.Amended

variable {clock : Clock} {t t' : Tables} {order : Order} {items : List OrderItem}
  {change : Order × Option Payment}

/-- The items of the other orders stay as they are. -/
theorem ofOrder_eq (coherent : t.Coherent) (h : Amended clock t order items change t')
    {id : OrderId} (hid : id ≠ order.id) :
    ItemRow.ofOrder id t'.orderItems = ItemRow.ofOrder id t.orderItems := by
  obtain ⟨reason, hitems⟩ := h.exists_orderItems_eq
  refine hitems ▸ filter_updateWhere_eq (fun _ => rfl) fun row hrow howner => ?_
  apply decide_eq_false
  intro hmem
  obtain ⟨item, hitem, rfl⟩ := h.exists_item coherent hrow hmem
  exact hid ((of_decide_eq_true howner).symm.trans (h.items_own item hitem))

end Order.Amended

/-! What cancellations, moves and checkouts do to the totals and the states of their orders. -/

namespace Order

variable {order : Order}

theorem finalTotal_settledOnCancel (order : Order) (payment : Option Payment) :
    (order.settledOnCancel payment).1.finalTotal = order.finalTotal := by
  unfold settledOnCancel
  split <;> rfl

theorem status_settledOnCancel (order : Order) (payment : Option Payment) :
    (order.settledOnCancel payment).1.status = order.status := by
  unfold settledOnCancel
  split <;> rfl

theorem finalTotal_lessItem (order : Order) (items : List OrderItem) (payment : Option Payment) :
    (order.lessItem items payment).1.finalTotal = openTotal items := by
  unfold lessItem
  split
  · exact finalTotal_settledOnCancel _ payment
  · rfl

theorem status_lessItem (items : List OrderItem) (payment : Option Payment)
    (hstatus : order.status ≠ .cancelled) :
    (order.lessItem items payment).1.status = .cancelled ↔ allCancelled items := by
  unfold lessItem
  by_cases hall : allCancelled items
  · rw [if_pos hall]
    exact iff_of_true (status_settledOnCancel _ payment) hall
  · rw [if_neg hall]
    exact iff_of_false hstatus hall

theorem finalTotal_calledOff (order : Order) (payment : Option Payment) :
    (order.calledOff payment).1.finalTotal = 0 := by
  unfold calledOff
  split <;> rfl

theorem status_calledOff (order : Order) (payment : Option Payment) :
    (order.calledOff payment).1.status = .cancelled := by
  unfold calledOff
  split <;> rfl

theorem status_moved (order : Order) (next : OrderStatus) (now : Instant)
    (payment : Option Payment) : (order.moved next now payment).1.status = next := by
  cases next <;> rfl

theorem finalTotal_moved (order : Order) (next : OrderStatus) (now : Instant)
    (payment : Option Payment) :
    (order.moved next now payment).1.finalTotal =
      if next = .cancelled then 0 else order.finalTotal := by
  cases next with
  | cancelled => exact finalTotal_settledOnCancel { order with finalTotal := 0 } payment
  | _ => rfl

theorem Reserved.exact {clock : Clock} {prices : List Price} {requests : List LineRequest}
    {rows after : List Product} {lines : List PricedLine}
    (h : Reserved clock prices requests rows lines after) : ∀ line ∈ lines, line.Exact := by
  induction h with
  | nil rows => simp
  | cons found priced natural reserved ih =>
    exact List.forall_mem_cons.mpr ⟨(exact_of_priceLine priced).1, ih⟩

end Order

namespace Order.Placed

variable {clock : Clock} {t' : Tables} {user : UserId} {addressId : AddressId}
  {method : PaymentMethod} {source : Order.Source} {store : Store} {address : Address}
  {cart : Option CartId} {requests : List LineRequest} {lines : List PricedLine} {order : Order}

/-- The items of the orders that were there before stay as they are. -/
theorem ofOrder_of_mem (h : Placed clock user addressId method source store address cart requests
    lines order t') {row : OrderRow} (hrow : row ∈ store.tables.orders) :
    ItemRow.ofOrder row.id t'.orderItems = ItemRow.ofOrder row.id store.tables.orderItems := by
  have hnone :
      ItemRow.ofOrder row.id ((itemsOf clock store order lines).map OrderItem.row) = [] := by
    apply List.filter_eq_nil_iff.mpr
    intro item hitem
    obtain ⟨new, hnew, rfl⟩ := List.mem_map.mp hitem
    have hid : new.orderId = order.id := (h.of_mem_itemsOf hnew).1
    rw [decide_eq_true_eq]
    exact fun hsame => h.order_fresh row hrow (hsame.symm.trans hid)
  rw [ItemRow.ofOrder] at hnone
  rw [h.orderItems_eq, ItemRow.ofOrder, List.filter_append, hnone, List.append_nil, ItemRow.ofOrder]

/-- The items of the new order are those of its lines. -/
theorem ofOrder_self (coherent : store.tables.Coherent)
    (h : Placed clock user addressId method source store address cart requests lines order t') :
    ItemRow.ofOrder order.id t'.orderItems =
      (itemsOf clock store order lines).map OrderItem.row := by
  have hnone : ItemRow.ofOrder order.id store.tables.orderItems = [] := by
    apply List.filter_eq_nil_iff.mpr
    intro item hitem
    obtain ⟨owner, howner, hid⟩ := coherent.item_order item hitem
    rw [decide_eq_true_eq]
    exact fun hsame => h.order_fresh owner howner (hid.trans hsame)
  have hall : ItemRow.ofOrder order.id ((itemsOf clock store order lines).map OrderItem.row) =
      (itemsOf clock store order lines).map OrderItem.row := by
    apply List.filter_eq_self.mpr
    intro item hitem
    obtain ⟨new, hnew, rfl⟩ := List.mem_map.mp hitem
    exact decide_eq_true (h.of_mem_itemsOf hnew).1
  rw [ItemRow.ofOrder] at hnone hall
  rw [h.orderItems_eq, ItemRow.ofOrder, List.filter_append, hnone, hall, List.nil_append]

/-- A new order comes to what its items come to. -/
theorem finalTotal_eq
    (h : Placed clock user addressId method source store address cart requests lines order t') :
    order.finalTotal = openTotal (itemsOf clock store order lines) := by
  have hopen : (itemsOf clock store order lines).filter (fun item => item.status ≠ .cancelled) =
      itemsOf clock store order lines := by
    apply List.filter_eq_self.mpr
    intro item hitem
    rw [(h.of_mem_itemsOf hitem).2.1]
    rfl
  rw [openTotal_eq_sum, hopen, itemsOf, OrderItem.map_ofLines fun _ _ => rfl,
    ← OrderTotals.finalTotal_ofLines h.reserved.exact, h.order_eq]
  rfl

theorem status_eq
    (h : Placed clock user addressId method source store address cart requests lines order t') :
    order.status = .pending := by
  rw [h.order_eq]
  rfl

end Order.Placed

namespace OrderItem

variable {id : OrderId} {items : List OrderItem} {rows : List ItemRow}

/-- Whether all items of an order are cancelled can be read off the items listed. -/
theorem ListedIn.allCancelled_iff (h : ListedIn id items rows)
    (hsome : ItemRow.ofOrder id rows ≠ []) :
    Order.allCancelled items ↔
      ∀ row ∈ ItemRow.ofOrder id rows, row.status = word ItemStatus.cancelled := by
  have hitems : items ≠ [] := by
    rintro rfl
    exact hsome h.perm.nil_eq.symm
  have hstatus (item : OrderItem) :
      item.row.status = word ItemStatus.cancelled ↔ item.status = .cancelled :=
    ItemStatus.word_inj
  unfold Order.allCancelled
  rw [Bool.and_eq_true, List.all_eq_true, Bool.not_eq_true', List.isEmpty_eq_false_iff]
  constructor
  · rintro ⟨-, hall⟩ row hrow
    obtain ⟨item, hitem, rfl⟩ := List.mem_map.mp (h.perm.mem_iff.mpr hrow)
    exact (hstatus item).mpr (of_decide_eq_true (hall item hitem))
  · intro hall
    refine ⟨hitems, fun item hitem => decide_eq_true ((hstatus item).mp ?_)⟩
    exact hall item.row (h.perm.mem_iff.mp (List.mem_map_of_mem hitem))

end OrderItem

namespace Tables.Totalled

variable {clock : Clock} {t t' : Tables} {order : Order} {items : List OrderItem}
  {change : Order × Option Payment}

theorem congr (h : t.Totalled) (horders : t'.orders = t.orders)
    (hitems : t'.orderItems = t.orderItems) : t'.Totalled := by
  unfold Totalled
  rw [horders, hitems]
  exact h

/-- An amendment keeps orders totalled if it leaves its own order so. -/
theorem amended (coherent : t.Coherent) (totalled : t.Totalled)
    (h : Order.Amended clock t order items change t')
    (hnext : change.1.row.Totalled (ItemRow.ofOrder order.id t'.orderItems)) : t'.Totalled := by
  intro row hrow
  rcases h.row_eq coherent hrow with rfl | ⟨hold, hid⟩
  · have hid : (change.1.stamp clock.store).row.id = order.id := Order.id_of_fixed h.fixed
    rw [hid]
    exact hnext.congr rfl Iff.rfl
  · rw [h.ofOrder_eq coherent hid]
    exact totalled row hold

/-- An amendment that neither touches an item nor the total keeps orders totalled, if the order is
as much cancelled as before. -/
theorem amended_quietly (coherent : t.Coherent) (totalled : t.Totalled)
    (h : Order.Amended clock t order [] change t')
    (htotal : change.1.finalTotal = order.finalTotal)
    (hstatus : change.1.status = .cancelled ↔ order.status = .cancelled) : t'.Totalled := by
  obtain ⟨reason, hitems⟩ := h.exists_orderItems_eq
  rw [ItemRow.cancelAll_nil] at hitems
  have horder := totalled order.row (mem_of_find?_key h.order_found).1
  apply totalled.amended coherent h
  rw [hitems]
  apply horder.congr htotal
  rw [Order.row, Order.row, OrderStatus.word_inj, OrderStatus.word_inj]
  exact hstatus

/-- An amendment that cancels the order with all its open items keeps orders totalled. -/
theorem amended_emptied (coherent : t.Coherent) (totalled : t.Totalled)
    (listed : OrderItem.ListedIn order.id items t.orderItems)
    (h : Order.Amended clock t order (OrderItem.openByProduct items) change t')
    (htotal : change.1.finalTotal = 0) (hstatus : change.1.status = .cancelled) : t'.Totalled := by
  refine totalled.amended coherent h (.of_cancelled htotal (congrArg word hstatus) ?_)
  intro row hrow
  obtain ⟨reason, hitems⟩ := h.exists_orderItems_eq
  obtain ⟨hmem, howner⟩ := List.mem_filter.mp hrow
  rw [hitems] at hmem
  obtain ⟨old, hold, rfl⟩ := mem_updateWhere.mp hmem
  split
  next => rfl
  next hkept =>
    rw [if_neg hkept] at howner
    obtain ⟨item, rfl⟩ := coherent.items_read old hold
    rcases coherent.items_status _ hold with hpending | hcancelled
    · refine absurd (decide_eq_true (List.mem_map_of_mem ?_)) hkept
      have hstatus : item.status = .pending := ItemStatus.word_inj.mp hpending
      refine OrderItem.mem_openByProduct.mpr ⟨listed.mem_iff.mpr ⟨hold, ?_⟩, ?_⟩
      · exact of_decide_eq_true howner
      · rw [hstatus]
        rfl
    · exact hcancelled

/-- An order with an open item is not cancelled. -/
theorem not_cancelled {item : OrderItem} (totalled : t.Totalled) (horder : order.row ∈ t.orders)
    (hitem : item.row ∈ t.orderItems) (howner : item.orderId = order.id)
    (hopen : item.status.isCancellable) : order.status ≠ .cancelled := by
  intro hcancelled
  have hall := (totalled order.row horder).cancelled_iff.mp (congrArg word hcancelled)
  have hstatus : item.row.status = word ItemStatus.cancelled :=
    hall item.row (List.mem_filter.mpr ⟨hitem, decide_eq_true howner⟩)
  rw [ItemStatus.word_inj.mp hstatus] at hopen
  exact absurd hopen (by decide)

theorem itemCancelled {user : UserId} {id : OrderId} {itemId : ItemId} {reason : String}
    {item : OrderItem} {payment : Option Payment} (coherent : t.Coherent) (totalled : t.Totalled)
    (h : Order.ItemCancelled clock user id itemId reason t order item items payment t') :
    t'.Totalled := by
  have hamended := h.amended
  obtain rfl := Order.id_of_found h.order_found
  have hitem := hamended.items_open.stored item List.mem_cons_self
  have howner := hamended.items_own item List.mem_cons_self
  have hitems : t'.orderItems = ItemRow.cancelAll clock reason [item] t.orderItems := by
    obtain ⟨withdrawn, hwithdrawn, rfl⟩ := h.changed
    exact hwithdrawn.orderItems_eq
  have hlisted := h.items_listed
  rw [← hitems] at hlisted
  have hsome : ItemRow.ofOrder order.id t'.orderItems ≠ [] := by
    rw [hitems]
    refine List.ne_nil_of_mem (List.mem_filter.mpr
      ⟨mem_updateWhere.mpr ⟨item.row, hitem, rfl⟩, decide_eq_true ?_⟩)
    split <;> exact howner
  have hstatus := totalled.not_cancelled (mem_of_find?_key h.order_found).1 hitem howner h.item_open
  refine totalled.amended coherent hamended ⟨?_, ?_⟩
  · have hperm : (items.map OrderItem.row).Perm (ItemRow.ofOrder order.id t'.orderItems) :=
      hlisted.perm
    rw [← ItemRow.openTotal_perm hperm, ItemRow.openTotal_map_row]
    exact Order.finalTotal_lessItem order items payment
  · rw [← hlisted.allCancelled_iff hsome, ← Order.status_lessItem items payment hstatus]
    exact OrderStatus.word_inj

theorem calledOff {user : UserId} {id : OrderId} {payment : Option Payment}
    (coherent : t.Coherent) (totalled : t.Totalled)
    (h : Order.CalledOff clock user id t order items payment t') : t'.Totalled := by
  have hamended := h.amended coherent
  have hlisted := h.items_listed
  rw [← Order.id_of_found h.order_found] at hlisted
  exact totalled.amended_emptied coherent hlisted hamended
    (Order.finalTotal_calledOff order payment)
    (Order.status_calledOff order payment)

theorem moved {id : OrderId} {next : OrderStatus} {payment : Option Payment}
    (coherent : t.Coherent) (totalled : t.Totalled)
    (h : Order.Moved clock id next t order items payment t') : t'.Totalled := by
  have hamended := h.amended coherent
  have hstatus := Order.status_moved order next clock.wall payment
  have htotal := Order.finalTotal_moved order next clock.wall payment
  by_cases hnext : next = .cancelled
  · have hlisted := h.items_listed hnext
    rw [← Order.id_of_found h.order_found] at hlisted
    rw [Order.withdrawnBy, if_pos hnext] at hamended
    rw [if_pos hnext] at htotal
    exact totalled.amended_emptied coherent hlisted hamended htotal (hstatus.trans hnext)
  · rw [Order.withdrawnBy, if_neg hnext] at hamended
    rw [if_neg hnext] at htotal
    refine totalled.amended_quietly coherent hamended htotal (iff_of_false ?_ ?_)
    · rw [hstatus]
      exact hnext
    · intro hcancelled
      have hallowed := h.allowed
      rw [hcancelled] at hallowed
      exact absurd hallowed (by simp [OrderStatus.canBecome])

/-- A checkout keeps orders totalled, since its lines are exact. -/
theorem placed {operation : Operation} {user : UserId} {addressId : AddressId}
    {method : PaymentMethod} {source : Order.Source} {store : Store} {address : Address}
    {cart : Option CartId} {requests : List LineRequest} {lines : List PricedLine}
    (coherent : store.tables.Coherent) (totalled : store.tables.Totalled)
    (asked : operation.checkout? = some (user, addressId, method, source))
    (hasLines : operation.hasLines)
    (h : Order.Placed clock user addressId method source store address cart requests lines order
      t') : t'.Totalled := by
  intro row hrow
  rw [h.orders_eq, List.mem_append, List.mem_singleton] at hrow
  rcases hrow with hrow | rfl
  · rw [h.ofOrder_of_mem hrow]
    exact totalled row hrow
  · have hid : order.row.id = order.id := rfl
    rw [hid, h.ofOrder_self coherent]
    constructor
    · rw [ItemRow.openTotal_map_row]
      exact h.finalTotal_eq
    · -- A new order is pending, and so is each of its items, of which there is one at least.
      refine iff_of_false (fun hcancelled => ?_) fun hcancelled => ?_
      · have hstatus : order.status = .cancelled := OrderStatus.word_inj.mp hcancelled
        rw [h.status_eq] at hstatus
        cases hstatus
      · obtain ⟨item, hitem⟩ := Order.Placed.exists_item clock store order
          (h.lines_ne_nil asked hasLines)
        have hstatus : item.row.status = word ItemStatus.cancelled :=
          hcancelled item.row (List.mem_map_of_mem hitem)
        have hpending := ItemStatus.word_inj.mp hstatus
        rw [(h.of_mem_itemsOf hitem).2.1] at hpending
        cases hpending

/-- What an operation does keeps orders totalled. -/
theorem effect {context : Context} {fault : Option Fault} {store : Store} {operation : Operation}
    {events : List Event} (coherent : store.tables.Coherent) (totalled : store.tables.Totalled)
    (h : operation.Effect context fault store events t') : t'.Totalled := by
  cases h with
  | placed asked hasLines placed => exact totalled.placed coherent asked hasLines placed
  | itemCancelled cancelled => exact totalled.itemCancelled coherent cancelled
  | orderCancelled cancelled => exact totalled.calledOff coherent cancelled
  | orderRefunded cancelled answered due refund =>
    have hcoherent := coherent.amended (cancelled.amended coherent)
    have htotalled := totalled.calledOff coherent cancelled
    exact htotalled.amended_quietly hcoherent refund.amended rfl Iff.rfl
  | refundFailed cancelled => exact totalled.calledOff coherent cancelled
  | statusChanged moved => exact totalled.moved coherent moved
  | intentCreated opened =>
    rw [opened.changed]
    exact totalled.congr rfl rfl
  | @paymentConfirmed _ _ _ _ _ confirmation _ called changes =>
    cases confirmation with
    | alreadyPaid => exact absurd rfl changes
    | paid => exact totalled.amended_quietly coherent called.amended rfl Iff.rfl
    | failed =>
      rw [called.changed]
      exact totalled.congr rfl rfl
  | refunded refund => exact totalled.amended_quietly coherent refund.amended rfl Iff.rfl
  | cartCreated created =>
    rw [created.changed]
    exact totalled.congr rfl rfl
  | cartReplaced untouched =>
    rw [untouched]
    exact totalled.congr rfl rfl
  | productRevised found natural changed =>
    rw [changed]
    exact totalled.congr rfl rfl

end Tables.Totalled

/-- What a call or a request does keeps orders totalled. -/
theorem Step.totalled (currency : String) {step : Step} {store : Store} (served : step.IsServed)
    (coherent : store.tables.Coherent) (totalled : store.tables.Totalled) :
    (step.run currency store).store.tables.Totalled := by
  apply step.keeps currency served totalled
  intro operation events t' _ heffect
  exact totalled.effect coherent heffect

/-- Wherever a run that began without orders has come to, every order comes to the sum of its items
that are not cancelled, and it is cancelled if and only if all its items are. -/
theorem totals_storeAfter (currency : String) (steps : List Step) (start : Store)
    (served : ∀ step ∈ steps, step.IsServed) (orders : start.tables.orders = [])
    (items : start.tables.orderItems = []) :
    ∀ order ∈ (storeAfter currency steps start).tables.orders,
      order.finalTotal = (((storeAfter currency steps start).tables.orderItems.filter fun item =>
          item.orderId = order.id && item.status ≠ word ItemStatus.cancelled).map
            (·.subtotal)).sum ∧
        (order.status = word OrderStatus.cancelled ↔
          ∀ item ∈ (storeAfter currency steps start).tables.orderItems,
            item.orderId = order.id → item.status = word ItemStatus.cancelled) := by
  have hrun : (storeAfter currency steps start).tables.Coherent ∧
      (storeAfter currency steps start).tables.Totalled := by
    refine storeAfter_induction (I := fun store => store.tables.Coherent ∧ store.tables.Totalled)
      ?_ ?_
    · refine ⟨.of_empty orders items, ?_⟩
      unfold Tables.Totalled
      simp [orders]
    · intro step hstep store ⟨hcoherent, htotalled⟩
      have hserved := served step hstep
      exact ⟨Step.coherent currency hserved hcoherent,
        Step.totalled currency hserved hcoherent htotalled⟩
  intro order horder
  obtain ⟨htotal, hstatus⟩ := hrun.2 order horder
  constructor
  · rw [htotal, ItemRow.openTotal, ItemRow.ofOrder, List.filter_filter]
    refine congrArg (fun rows : List ItemRow => (rows.map (·.subtotal)).sum)
      (List.filter_congr fun item _ => ?_)
    exact Bool.and_comm _ _
  · rw [hstatus]
    constructor
    · intro hall item hitem howner
      exact hall item (List.mem_filter.mpr ⟨hitem, decide_eq_true howner⟩)
    · intro hall item hitem
      obtain ⟨hmem, howner⟩ := List.mem_filter.mp hitem
      exact hall item hmem (of_decide_eq_true howner)

/-- A purchase of two products, of which one is cancelled. -/
def Step.halfKept : List Step :=
  [ofCall (.placeDirect 7 6 .cod [⟨3, 2⟩, ⟨4, 1⟩]), ofCall (.cancelItem 7 1 1 "Too many")]

theorem totals_halfKept :
    (storeAfter "INR" Step.halfKept .stocked).tables.orders.map (·.finalTotal) = [4000] ∧
      ∀ order ∈ (storeAfter "INR" Step.halfKept .stocked).tables.orders,
        order.finalTotal =
          (((storeAfter "INR" Step.halfKept .stocked).tables.orderItems.filter fun item =>
            item.orderId = order.id && item.status ≠ word ItemStatus.cancelled).map
              (·.subtotal)).sum := by
  have hserved : ∀ step ∈ Step.halfKept, step.IsServed := by
    simp [Step.halfKept, Step.isServed_ofCall]
  refine ⟨by decide +kernel, fun order horder => ?_⟩
  exact (totals_storeAfter "INR" Step.halfKept .stocked hserved rfl rfl order horder).1

end Storefront
