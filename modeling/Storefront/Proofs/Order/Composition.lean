import Storefront.Proofs.Catalog.Discounts
import Storefront.Proofs.Service.History

/-!
What orders are made of. An order has one item for each product that was asked for, its total and
its discount are the sums over all its items, and it has a copy of an address of its own. A checkout
makes it so, and nothing that happens later touches any of it.
-/

namespace Storefront

/-- An item whose price less the discount is its final price, which is neither negative nor above
the price, and comes to its subtotal. -/
structure ItemRow.Priced (row : ItemRow) : Prop where
  price_sub_discount : row.price - row.discountAmount = row.finalPrice
  subtotal_eq : row.subtotal = row.finalPrice * row.quantity
  quantity_pos : 0 < row.quantity
  finalPrice_natural : 0 ≤ row.finalPrice
  finalPrice_le : row.finalPrice ≤ row.price

/-- An order is made of items, as they are stored one after the other. -/
structure OrderRow.Composed (order : OrderRow) (items : List ItemRow) : Prop where
  nonempty : items ≠ []
  ascending : items.Pairwise fun item later => item.productId < later.productId ∧ item.id < later.id
  priced : ∀ item ∈ items, item.Priced
  total_eq : order.total = (items.map fun item => item.price * item.quantity).sum
  discount_eq : order.discount = (items.map fun item => item.discountAmount * item.quantity).sum

/-- Every order is made of its items, and what it was placed for fits its column. -/
structure Tables.Composed (t : Tables) : Prop where
  orders : ∀ order ∈ t.orders, order.Composed (ItemRow.ofOrder order.id t.orderItems)
  worth_fits : ∀ order ∈ t.orders, fitsNumeric 12 (order.total - order.discount)

/-- The copies of addresses are those of the orders, one by one. -/
structure Tables.Addressed (t : Tables) : Prop where
  addresses : t.orders.map (·.shippingAddressId) = t.orderAddresses.map fun copy => some copy.id
  key : (t.orderAddresses.map (·.id)).Nodup

namespace LineRequest

variable {product : ProductId} {quantity : Int} {lines summed total : List LineRequest}

/-- The lines ascend by product, with no product twice. -/
def Ascends (lines : List LineRequest) : Prop :=
  lines.Pairwise fun line later => line.productId < later.productId

theorem productId_of_mem_raise {line : LineRequest} (h : line ∈ raise product quantity lines) :
    line.productId = product ∨ ∃ old ∈ lines, line.productId = old.productId := by
  induction lines with
  | nil =>
    rw [raise, List.mem_singleton] at h
    exact .inl (congrArg (·.productId) h)
  | cons first rest ih =>
    unfold raise at h
    split_ifs at h
    · rcases List.mem_cons.mp h with rfl | h
      · exact .inl rfl
      · exact .inr ⟨line, h, rfl⟩
    · rcases List.mem_cons.mp h with rfl | h
      · exact .inl rfl
      · exact .inr ⟨line, List.mem_cons_of_mem _ h, rfl⟩
    · rcases List.mem_cons.mp h with rfl | h
      · exact .inr ⟨line, List.mem_cons_self, rfl⟩
      · obtain hid | ⟨old, hold, hid⟩ := ih h
        · exact .inl hid
        · exact .inr ⟨old, List.mem_cons_of_mem _ hold, hid⟩

theorem Ascends.raise (h : Ascends lines) : Ascends (raise product quantity lines) := by
  induction lines with
  | nil => exact List.pairwise_singleton _ _
  | cons first rest ih =>
    obtain ⟨hfirst, hrest⟩ := List.pairwise_cons.mp h
    unfold LineRequest.raise
    split_ifs with hbefore hsame
    · refine List.pairwise_cons.mpr ⟨?_, h⟩
      exact List.forall_mem_cons.mpr
        ⟨hbefore, fun later hlater => Int.lt_trans hbefore (hfirst later hlater)⟩
    · refine List.pairwise_cons.mpr ⟨?_, hrest⟩
      rw [hsame]
      exact hfirst
    · refine List.pairwise_cons.mpr ⟨fun later hlater => ?_, ih hrest⟩
      rcases productId_of_mem_raise hlater with hid | ⟨old, hold, hid⟩
      · rw [hid]
        exact Int.lt_iff_le_and_ne.mpr ⟨Int.not_lt.mp hbefore, Ne.symm hsame⟩
      · rw [hid]
        exact hfirst old hold

theorem Ascends.foldlM_addTo (h : Ascends summed) (hsum : lines.foldlM addTo summed = .ok total) :
    Ascends total := by
  induction lines generalizing summed with
  | nil =>
    obtain rfl : summed = total := Except.ok.inj hsum
    exact h
  | cons line rest ih =>
    rw [List.foldlM_cons] at hsum
    cases hadd : addTo summed line with
    | error cause =>
      rw [hadd] at hsum
      cases hsum
    | ok raised =>
      rw [hadd] at hsum
      refine ih ?_ hsum
      unfold addTo at hadd
      split_ifs at hadd
      obtain rfl := Except.ok.inj hadd
      exact h.raise

/-- Summed lines ascend by product, whatever was asked for. -/
theorem ascends_aggregate (h : aggregate lines = .ok total) : Ascends total :=
  Ascends.foldlM_addTo List.Pairwise.nil h

end LineRequest

namespace OrderItem

theorem ascending_ofLines {order : OrderId} {now : Instant} {first : ItemId}
    {lines : List PricedLine}
    (h : lines.Pairwise fun line later => line.productId < later.productId) :
    (ofLines order now first lines).Pairwise fun item later =>
      item.productId < later.productId ∧ item.id < later.id := by
  induction lines generalizing first with
  | nil => exact List.Pairwise.nil
  | cons line rest ih =>
    obtain ⟨hline, hrest⟩ := List.pairwise_cons.mp h
    refine List.pairwise_cons.mpr ⟨fun later hlater => ?_, ih hrest⟩
    obtain ⟨other, hother, heq⟩ := exists_line_of_mem hlater
    have hproduct : later.productId = other.productId := by rw [heq, ofLine]
    have hid := ids_ofLines order now rest (first + 1) later hlater
    refine ⟨?_, Int.lt_of_add_one_le hid⟩
    rw [hproduct]
    exact hline other hother

end OrderItem

namespace Order

variable {clock : Clock} {prices : List Price} {requests : List LineRequest}
  {rows after : List Product} {lines : List PricedLine}

theorem Reserved.productIds_eq (h : Reserved clock prices requests rows lines after) :
    lines.map (·.productId) = requests.map (·.productId) := by
  induction h with
  | nil rows => rfl
  | cons found priced natural reserved ih =>
    obtain ⟨-, hid, -⟩ := exact_of_priceLine priced
    rw [List.map_cons, List.map_cons, ih, hid, (mem_of_find?_key found).2]

theorem Reserved.discounted (natural : ∀ price ∈ prices, 0 ≤ price.amount)
    (h : Reserved clock prices requests rows lines after) : ∀ line ∈ lines, line.Discounted := by
  induction h with
  | nil rows => simp
  | cons found priced _ reserved ih =>
    refine List.forall_mem_cons.mpr ⟨discounted_of_priceLine (fun price hprice => ?_) priced, ih⟩
    exact natural price (List.mem_filter.mp (mem_sortBy.mp hprice)).1

end Order

namespace ItemRow

theorem ofOrder_record (id : OrderId) (rows : List ItemRow) :
    (ofOrder id rows).map record = ofOrder id (rows.map record) := by
  rw [ofOrder, ofOrder, List.filter_map]
  rfl

end ItemRow

/-- What an order is made of shows in its record and those of its items. -/
theorem OrderRow.composed_record {order : OrderRow} {items : List ItemRow} :
    order.record.Composed (items.map ItemRow.record) ↔ order.Composed items := by
  have hpriced (row : ItemRow) : row.record.Priced ↔ row.Priced :=
    ⟨fun ⟨h₁, h₂, h₃, h₄, h₅⟩ => ⟨h₁, h₂, h₃, h₄, h₅⟩,
      fun ⟨h₁, h₂, h₃, h₄, h₅⟩ => ⟨h₁, h₂, h₃, h₄, h₅⟩⟩
  have hsum (f : ItemRow → Int) (hf : ∀ row, f row.record = f row) :
      ((items.map ItemRow.record).map f).sum = (items.map f).sum := by
    rw [List.map_map]
    exact congrArg List.sum (List.map_congr_left fun row _ => hf row)
  have htotal := hsum (fun item => item.price * item.quantity) fun _ => rfl
  have hdiscount := hsum (fun item => item.discountAmount * item.quantity) fun _ => rfl
  constructor
  · rintro ⟨hnonempty, hascending, hall, htotal', hdiscount'⟩
    refine ⟨fun hnone => hnonempty ?_, List.pairwise_map.mp hascending, ?_, ?_, ?_⟩
    · rw [hnone, List.map_nil]
    · exact fun item hitem => (hpriced item).mp (hall _ (List.mem_map_of_mem hitem))
    · exact htotal'.trans htotal
    · exact hdiscount'.trans hdiscount
  · rintro ⟨hnonempty, hascending, hall, htotal', hdiscount'⟩
    refine ⟨fun hnone => hnonempty (List.map_eq_nil_iff.mp hnone), List.pairwise_map.mpr hascending,
      ?_, htotal'.trans htotal.symm, hdiscount'.trans hdiscount.symm⟩
    exact List.forall_mem_map.mpr fun item hitem => (hpriced item).mpr (hall item hitem)

theorem ItemRow.Priced.subtotal_natural {row : ItemRow} (h : row.Priced) : 0 ≤ row.subtotal := by
  rw [h.subtotal_eq]
  exact Int.mul_nonneg h.finalPrice_natural (Int.le_of_lt h.quantity_pos)

/-- The total less the discount of an order is what all its items come to. -/
theorem OrderRow.Composed.worth_eq {order : OrderRow} {items : List ItemRow}
    (h : order.Composed items) : order.total - order.discount = (items.map (·.subtotal)).sum := by
  rw [h.total_eq, h.discount_eq, sub_eq_iff_eq_add, ← List.sum_map_add]
  refine congrArg List.sum (List.map_congr_left fun item hitem => ?_)
  obtain ⟨hprice, hsubtotal, -⟩ := h.priced item hitem
  rw [hsubtotal, ← hprice, Int.sub_mul, Int.sub_add_cancel]

namespace Order.Placed

variable {clock : Clock} {t' : Tables} {user : UserId} {addressId : AddressId}
  {method : PaymentMethod} {source : Source} {store : Store} {address : Address}
  {cart : Option CartId} {requests : List LineRequest} {lines : List PricedLine} {order : Order}

/-- The lines of a checkout ascend by product, however they were asked for. -/
theorem lines_ascend
    (h : Placed clock user addressId method source store address cart requests lines order t') :
    lines.Pairwise fun line later => line.productId < later.productId := by
  have hrequests : LineRequest.Ascends requests := by
    cases h.requested with
    | cart found filled summed => exact LineRequest.ascends_aggregate summed
    | items summed => exact LineRequest.ascends_aggregate summed
  have hids : (requests.map (·.productId)).Pairwise (· < ·) := List.pairwise_map.mpr hrequests
  rw [← h.reserved.productIds_eq] at hids
  exact List.pairwise_map.mp hids

theorem item_priced (prices : ∀ price ∈ store.tables.productPrices, 0 ≤ price.amount)
    (h : Placed clock user addressId method source store address cart requests lines order t')
    {item : OrderItem} (hitem : item ∈ itemsOf clock store order lines) : item.row.Priced := by
  obtain ⟨-, -, hpositive, -⟩ := h.of_mem_itemsOf hitem
  obtain ⟨line, hline, heq⟩ := OrderItem.exists_line_of_mem hitem
  obtain ⟨hprice, hsubtotal⟩ := h.reserved.exact line hline
  obtain ⟨hnatural, hle⟩ := h.reserved.discounted prices line hline
  rw [heq] at hpositive ⊢
  exact ⟨hprice, hsubtotal, hpositive, hnatural, hle⟩

/-- A new order is made of the items of its lines. -/
theorem composed {operation : Operation}
    (prices : ∀ price ∈ store.tables.productPrices, 0 ≤ price.amount)
    (asked : operation.checkout? = some (user, addressId, method, source))
    (hasLines : operation.hasLines)
    (h : Placed clock user addressId method source store address cart requests lines order t') :
    order.row.Composed ((itemsOf clock store order lines).map OrderItem.row) := by
  have hlines := h.lines_ne_nil asked hasLines
  have hsum (f : ItemRow → Int) (g : PricedLine → Int)
      (hf : ∀ id line, f (OrderItem.ofLine order.id clock.store id line).row = g line) :
      (lines.map g).sum = (((itemsOf clock store order lines).map OrderItem.row).map f).sum := by
    rw [List.map_map, itemsOf, OrderItem.map_ofLines hf]
  refine ⟨fun hnone => ?_, ?_, ?_, ?_, ?_⟩
  · obtain ⟨item, hitem⟩ := exists_item clock store order hlines
    rw [List.map_eq_nil_iff.mp hnone] at hitem
    cases hitem
  · exact List.pairwise_map.mpr (OrderItem.ascending_ofLines h.lines_ascend)
  · exact List.forall_mem_map.mpr fun item hitem => h.item_priced prices hitem
  · have htotal : order.total = (OrderTotals.ofLines lines).total := by
      rw [h.order_eq]
      rfl
    rw [OrderTotals.total_ofLines] at htotal
    exact htotal.trans (hsum (fun item => item.price * item.quantity) _ fun _ _ => rfl)
  · have hdiscount : order.discount = (OrderTotals.ofLines lines).discount := by
      rw [h.order_eq]
      rfl
    rw [OrderTotals.discount_ofLines] at hdiscount
    exact hdiscount.trans (hsum (fun item => item.discountAmount * item.quantity) _ fun _ _ => rfl)

end Order.Placed

/-- No operation touches the prices of products and the addresses of users. -/
theorem Operation.Effect.inputs_eq {context : Context} {fault : Option Fault} {store : Store}
    {operation : Operation} {events : List Event} {t' : Tables}
    (h : operation.Effect context fault store events t') :
    (t'.productPrices, t'.addresses) = (store.tables.productPrices, store.tables.addresses) := by
  have hamended {t t' : Tables} {clock : Clock} {reason : String} {items : List OrderItem}
      {change : Order × Option Payment}
      (h : ∃ withdrawn, OrderItem.Withdrawn clock reason items t withdrawn ∧
        t' = withdrawn.amend clock.store change) :
      (t'.productPrices, t'.addresses) = (t.productPrices, t.addresses) := by
    obtain ⟨middle, ⟨products, -, rfl⟩, rfl⟩ := h
    rfl
  cases h with
  | placed asked hasLines placed =>
    obtain ⟨products, -, rfl⟩ := placed.changed
    rfl
  | itemCancelled cancelled => exact hamended cancelled.changed
  | orderCancelled cancelled => exact hamended cancelled.changed
  | orderRefunded cancelled answered due refund =>
    have hcancelled := hamended cancelled.changed
    rw [refund.changed]
    exact hcancelled
  | refundFailed cancelled => exact hamended cancelled.changed
  | statusChanged moved => exact hamended moved.changed
  | intentCreated opened => rw [opened.changed]
  | @paymentConfirmed _ _ _ _ _ confirmation _ called =>
    rw [called.changed]
    cases confirmation <;> rfl
  | refunded refund =>
    rw [refund.changed]
    rfl
  | cartCreated created => rw [created.changed]
  | cartReplaced untouched => rw [untouched]
  | productRevised found natural changed => rw [changed]

theorem Operation.Effect.productPrices_eq {context : Context} {fault : Option Fault} {store : Store}
    {operation : Operation} {events : List Event} {t' : Tables}
    (h : operation.Effect context fault store events t') :
    t'.productPrices = store.tables.productPrices :=
  (Prod.mk.inj h.inputs_eq).1

theorem Operation.Effect.addresses_eq {context : Context} {fault : Option Fault} {store : Store}
    {operation : Operation} {events : List Event} {t' : Tables}
    (h : operation.Effect context fault store events t') :
    t'.addresses = store.tables.addresses :=
  (Prod.mk.inj h.inputs_eq).2

namespace Tables.SameOrders

variable {t t' : Tables}

/-- Every order has the record of one that was there before. -/
theorem exists_record_eq (same : t.SameOrders t') {order : OrderRow} (horder : order ∈ t'.orders) :
    ∃ old ∈ t.orders, old.record = order.record := by
  have hrecord := List.mem_map_of_mem (f := OrderRow.record) horder
  rw [same.orders] at hrecord
  exact List.mem_map.mp hrecord

/-- Tables with the same records are made up alike. -/
theorem composed (same : t.SameOrders t') (h : t.Composed) : t'.Composed := by
  constructor
  · intro order horder
    obtain ⟨old, hold, hrecord⟩ := same.exists_record_eq horder
    have hid : old.id = order.id := congrArg (·.id) hrecord
    have hcomposed := OrderRow.composed_record.mpr (h.orders old hold)
    rw [ItemRow.ofOrder_record, ← same.orderItems, ← ItemRow.ofOrder_record, hrecord, hid]
      at hcomposed
    exact OrderRow.composed_record.mp hcomposed
  · intro order horder
    obtain ⟨old, hold, hrecord⟩ := same.exists_record_eq horder
    have hworth : old.total - old.discount = order.total - order.discount :=
      congrArg (fun row => row.total - row.discount) hrecord
    rw [← hworth]
    exact h.worth_fits old hold

theorem addressed (same : t.SameOrders t') (h : t.Addressed) : t'.Addressed := by
  constructor
  · rw [same.addressIds_eq, same.copies]
    exact h.addresses
  · rw [same.copies]
    exact h.key

end Tables.SameOrders

section Effects

variable {context : Context} {fault : Option Fault} {store : Store} {operation : Operation}
  {events : List Event} {t' : Tables} {clock : Clock} {user : UserId} {addressId : AddressId}
  {method : PaymentMethod} {source : Order.Source} {address : Address} {cart : Option CartId}
  {requests : List LineRequest} {lines : List PricedLine} {order : Order}

theorem Tables.Composed.placed (coherent : store.tables.Coherent) (h : store.tables.Composed)
    (prices : ∀ price ∈ store.tables.productPrices, 0 ≤ price.amount)
    (asked : operation.checkout? = some (user, addressId, method, source))
    (hasLines : operation.hasLines)
    (placed : Order.Placed clock user addressId method source store address cart requests lines
      order t') : t'.Composed := by
  constructor
  · intro row hrow
    rw [placed.orders_eq, List.mem_append, List.mem_singleton] at hrow
    rcases hrow with hrow | rfl
    · rw [placed.ofOrder_of_mem hrow]
      exact h.orders row hrow
    · have hid : order.row.id = order.id := rfl
      rw [hid, placed.ofOrder_self coherent]
      exact placed.composed prices asked hasLines
  · intro row hrow
    rw [placed.orders_eq, List.mem_append, List.mem_singleton] at hrow
    rcases hrow with hrow | rfl
    · exact h.worth_fits row hrow
    · -- An order is placed for its total less its discount, which was stored then.
      have hworth : order.finalTotal = order.total - order.discount := by
        rw [placed.order_eq]
        rfl
      have hstorable := placed.order_storable
      rw [Order.isStorable, Bool.and_eq_true, hworth] at hstorable
      exact hstorable.2

theorem Tables.Addressed.placed (h : store.tables.Addressed)
    (placed : Order.Placed clock user addressId method source store address cart requests lines
      order t') : t'.Addressed := by
  have hcopies : t'.orderAddresses = store.tables.orderAddresses ++
      [⟨store.sequences.orderAddress, address.destination, clock.store⟩] := by
    obtain ⟨products, -, rfl⟩ := placed.changed
    rfl
  constructor
  · rw [placed.orders_eq, hcopies, List.map_append, List.map_append, h.addresses, placed.order_eq]
    rfl
  · rw [hcopies]
    refine nodup_keys_append h.key (List.nodup_singleton _) ?_
    rintro _ (_ | ⟨_, ⟨⟩⟩)
    exact placed.copy_fresh

theorem Tables.Composed.effect (coherent : store.tables.Coherent) (h : store.tables.Composed)
    (prices : ∀ price ∈ store.tables.productPrices, 0 ≤ price.amount)
    (heffect : operation.Effect context fault store events t') : t'.Composed := by
  cases hop : operation.checkout? with
  | none => exact (Tables.SameOrders.effect heffect hop).composed h
  | some asked =>
    cases heffect with
    | placed asked hasLines placed => exact h.placed coherent prices asked hasLines placed
    | _ => cases hop

theorem Tables.Addressed.effect (h : store.tables.Addressed)
    (heffect : operation.Effect context fault store events t') : t'.Addressed := by
  cases hop : operation.checkout? with
  | none => exact (Tables.SameOrders.effect heffect hop).addressed h
  | some asked =>
    cases heffect with
    | placed asked hasLines placed => exact h.placed placed
    | _ => cases hop

end Effects

section Runs

variable {steps : List Step} {start : Store}

theorem Step.productPrices_eq (currency : String) {step : Step} (store : Store)
    (served : step.IsServed) :
    (step.run currency store).store.tables.productPrices = store.tables.productPrices :=
  Step.keeps (I := fun t => t.productPrices = store.tables.productPrices) currency served rfl
    fun _ _ _ _ heffect => heffect.productPrices_eq

/-- Wherever a run that began without orders has come to, orders are made of their items. -/
theorem composed_storeAfter (currency : String) (served : ∀ step ∈ steps, step.IsServed)
    (orders : start.tables.orders = []) (items : start.tables.orderItems = [])
    (prices : ∀ price ∈ start.tables.productPrices, 0 ≤ price.amount) :
    (storeAfter currency steps start).tables.Coherent ∧
      (storeAfter currency steps start).tables.Composed := by
  have hempty : start.tables.Composed := by
    constructor <;> simp [orders]
  have hrun : (storeAfter currency steps start).tables.productPrices = start.tables.productPrices ∧
      (storeAfter currency steps start).tables.Coherent ∧
        (storeAfter currency steps start).tables.Composed := by
    refine storeAfter_induction (I := fun store =>
      store.tables.productPrices = start.tables.productPrices ∧ store.tables.Coherent ∧
        store.tables.Composed) ⟨rfl, .of_empty orders items, hempty⟩ ?_
    rintro step hstep store ⟨hprices, hcoherent, hcomposed⟩
    have hserved := served step hstep
    refine ⟨(step.productPrices_eq currency store hserved).trans hprices,
      Step.coherent currency hserved hcoherent, step.keeps currency hserved hcomposed ?_⟩
    intro operation events t' hop heffect
    rw [← hprices] at prices
    exact hcomposed.effect hcoherent prices heffect
  exact hrun.2

theorem addressed_storeAfter (currency : String) (served : ∀ step ∈ steps, step.IsServed)
    (orders : start.tables.orders = []) (addresses : start.tables.orderAddresses = []) :
    (storeAfter currency steps start).tables.Addressed := by
  refine storeAfter_induction (I := fun store => store.tables.Addressed) ?_ ?_
  · constructor <;> simp [orders, addresses]
  · intro step hstep store hstore
    exact step.keeps currency (served step hstep) hstore fun _ _ _ _ heffect =>
      hstore.effect heffect

end Runs

/-- Two tables of which the rows go together one by one refer to each other without ambiguity. -/
theorem existsUnique_of_map_eq {α β κ : Type} {f : α → κ} {g : β → κ} {xs : List α} {ys : List β}
    (h : xs.map f = ys.map g) (unique : (ys.map g).Nodup) {x : α} (hx : x ∈ xs) :
    ∃! y, y ∈ ys ∧ f x = g y := by
  have hmem : f x ∈ ys.map g := h ▸ List.mem_map_of_mem hx
  obtain ⟨y, hy, hsame⟩ := List.mem_map.mp hmem
  exact ⟨y, ⟨hy, hsame.symm⟩, fun other ⟨hother, hother'⟩ =>
    eq_of_key_eq unique hother hy (hother'.symm.trans hsame.symm)⟩

/-- Wherever a run that began without orders has come to, an order has an item at least and none
twice for a product, with identifiers that ascend with the products; the price less the discount of
an item is its final price, which is neither negative nor above the price, and times the quantity it
makes the subtotal; total and discount of an order are the sums over all its items, cancelled or
not; and every order has a copy of an address that belongs to no other, and every copy belongs to an
order. -/
theorem orders_composed (currency : String) (steps : List Step) (start : Store)
    (served : ∀ step ∈ steps, step.IsServed) (orders : start.tables.orders = [])
    (items : start.tables.orderItems = []) (addresses : start.tables.orderAddresses = [])
    (prices : ∀ price ∈ start.tables.productPrices, 0 ≤ price.amount) :
    (∀ order ∈ (storeAfter currency steps start).tables.orders,
        order.Composed
          (ItemRow.ofOrder order.id (storeAfter currency steps start).tables.orderItems)) ∧
      (∀ item ∈ (storeAfter currency steps start).tables.orderItems, item.Priced) ∧
      (∀ order ∈ (storeAfter currency steps start).tables.orders,
        ∃! copy, copy ∈ (storeAfter currency steps start).tables.orderAddresses ∧
          order.shippingAddressId = some copy.id) ∧
      ∀ copy ∈ (storeAfter currency steps start).tables.orderAddresses,
        ∃! order, order ∈ (storeAfter currency steps start).tables.orders ∧
          order.shippingAddressId = some copy.id := by
  obtain ⟨hcoherent, horders, -⟩ := composed_storeAfter currency served orders items prices
  obtain ⟨haddresses, hkey⟩ := addressed_storeAfter currency served orders addresses
  have hcopies : ((storeAfter currency steps start).tables.orderAddresses.map
      fun copy => some copy.id).Nodup := by
    have hsome := hkey.map (Option.some_injective _)
    rwa [List.map_map] at hsome
  refine ⟨horders, fun item hitem => ?_, fun order horder => ?_, fun copy hcopy => ?_⟩
  · obtain ⟨order, horder, howner⟩ := hcoherent.item_order item hitem
    exact (horders order horder).priced item
      (List.mem_filter.mpr ⟨hitem, decide_eq_true howner.symm⟩)
  · exact existsUnique_of_map_eq haddresses hcopies horder
  · rw [← haddresses] at hcopies
    simpa only [eq_comm] using existsUnique_of_map_eq haddresses.symm hcopies hcopy

/-- A product that is asked for twice, a checkout that asks for too much of one, and another
order. -/
def Step.mergedLines : List Step :=
  [ofCall (.placeDirect 7 6 .cod [⟨4, 1⟩, ⟨3, 1⟩, ⟨3, 1⟩]), ofCall (.placeDirect 7 6 .cod [⟨4, 9⟩]),
    ofCall (.placeDirect 7 6 .cod [⟨3, 1⟩]), ofCall (.cancelItem 7 1 2 "Too dear")]

/-- The first order has one item for each product, and the address copied for the checkout that
failed is not there. -/
theorem orders_mergedLines :
    (storeAfter "INR" Step.mergedLines .stocked).tables.orderItems.map
        (fun item => (item.orderId, item.productId, item.quantity, item.finalPrice)) =
        [(1, 3, 2, 904), (1, 4, 1, 4000), (2, 3, 1, 904)] ∧
      (storeAfter "INR" Step.mergedLines .stocked).tables.orderAddresses.map (·.id) = [1, 3] ∧
      ∀ order ∈ (storeAfter "INR" Step.mergedLines .stocked).tables.orders,
        order.Composed (ItemRow.ofOrder order.id
          (storeAfter "INR" Step.mergedLines .stocked).tables.orderItems) := by
  have hserved : ∀ step ∈ Step.mergedLines, step.IsServed := by
    simp [Step.mergedLines, Step.isServed_ofCall]
  have hprices : ∀ price ∈ Store.stocked.tables.productPrices, 0 ≤ price.amount := by decide
  refine ⟨by decide +kernel, by decide +kernel, ?_⟩
  exact (orders_composed "INR" Step.mergedLines .stocked hserved rfl rfl rfl hprices).1

end Storefront
