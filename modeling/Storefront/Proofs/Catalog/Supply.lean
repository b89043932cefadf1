import Storefront.Proofs.Catalog.Balance
import Storefront.Proofs.Service.History

/-!
Products that the service may write to. Products are never added or removed, no stock is negative,
and every item is of a product that is there, so that what is cancelled can be put back.
-/

namespace Storefront

/-- The same products, of which no stock is negative if none was. -/
structure Product.Kept (rows rows' : List Product) : Prop where
  ids_eq : rows'.map (·.id) = rows.map (·.id)
  names_eq : rows'.map (·.name) = rows.map (·.name)
  natural : (∀ row ∈ rows, 0 ≤ row.stock) → ∀ row ∈ rows', 0 ≤ row.stock

/-- Identifiers of products are unique, no stock is negative, and items are of products. -/
structure Tables.Supplied (t : Tables) : Prop where
  products_key : (t.products.map (·.id)).Nodup
  natural : ∀ product ∈ t.products, 0 ≤ product.stock
  item_product : ∀ item ∈ t.orderItems, item.productId ∈ t.products.map (·.id)

theorem Product.names_writeTo (now : Instant) (next : Product) (rows : List Product) :
    (next.writeTo now rows).map (·.name) = rows.map (·.name) :=
  map_updateWhere fun _ => rfl

theorem Order.Reserved.names_eq {clock : Clock} {prices : List Price} {requests : List LineRequest}
    {rows after : List Product} {lines : List PricedLine}
    (h : Reserved clock prices requests rows lines after) :
    after.map (·.name) = rows.map (·.name) := by
  induction h with
  | nil rows => rfl
  | cons found priced natural reserved ih => rw [ih, Product.names_writeTo]

namespace Product.Kept

variable {rows rows' rows'' : List Product}

theorem refl (rows : List Product) : Kept rows rows :=
  ⟨rfl, rfl, fun natural => natural⟩

theorem trans (h : Kept rows rows') (h' : Kept rows' rows'') : Kept rows rows'' :=
  ⟨h'.ids_eq.trans h.ids_eq, h'.names_eq.trans h.names_eq,
    fun natural => h'.natural (h.natural natural)⟩

theorem writeTo {next : Product} (now : Instant) (natural : 0 ≤ next.stock) :
    Kept rows (next.writeTo now rows) :=
  ⟨Product.ids_writeTo now next rows, Product.names_writeTo now next rows,
    Product.natural_writeTo natural⟩

theorem restocked {now : Instant} {items : List OrderItem} (h : Restocked now items rows rows') :
    Kept rows rows' := by
  induction h with
  | nil rows => exact refl rows
  | cons found natural restocked ih => exact (writeTo now natural).trans ih

theorem amended {clock : Clock} {reason : String} {items : List OrderItem}
    {change : Order × Option Payment} {t t' : Tables}
    (h : ∃ withdrawn, OrderItem.Withdrawn clock reason items t withdrawn ∧
      t' = withdrawn.amend clock.store change) : Kept t.products t'.products := by
  obtain ⟨middle, hwithdrawn, rfl⟩ := h
  exact restocked hwithdrawn.restocked

/-- Whatever an operation does, the products are kept. -/
theorem effect {context : Context} {fault : Option Fault} {store : Store} {operation : Operation}
    {events : List Event} {t' : Tables} (h : operation.Effect context fault store events t') :
    Kept store.tables.products t'.products := by
  cases h with
  | placed asked hasLines placed =>
    have hreserved := placed.reserved
    exact ⟨hreserved.ids_eq, hreserved.names_eq, hreserved.natural⟩
  | itemCancelled cancelled => exact amended cancelled.changed
  | orderCancelled cancelled => exact amended cancelled.changed
  | orderRefunded cancelled answered due refund =>
    have hcancelled := amended cancelled.changed
    rw [refund.changed]
    exact hcancelled
  | refundFailed cancelled => exact amended cancelled.changed
  | statusChanged moved => exact amended moved.changed
  | intentCreated opened =>
    rw [opened.changed]
    exact refl _
  | @paymentConfirmed _ _ _ _ _ confirmation _ called =>
    rw [called.changed]
    cases confirmation <;> exact refl _
  | refunded refund =>
    rw [refund.changed]
    exact refl _
  | cartCreated created =>
    rw [created.changed]
    exact refl _
  | cartReplaced untouched =>
    rw [untouched]
    exact refl _
  | productRevised found natural changed =>
    rw [changed]
    exact writeTo context.clock.store natural

end Product.Kept

namespace Tables.Supplied

variable {t t' : Tables}

theorem of_kept (h : t.Supplied) (kept : Product.Kept t.products t'.products)
    (items : ∀ item ∈ t'.orderItems, item.productId ∈ t'.products.map (·.id)) : t'.Supplied := by
  refine ⟨?_, kept.natural h.natural, items⟩
  rw [kept.ids_eq]
  exact h.products_key

/-- Tables with the same orders and the same products are supplied alike. -/
theorem of_sameOrders (h : t.Supplied) (kept : Product.Kept t.products t'.products)
    (same : t.SameOrders t') : t'.Supplied := by
  refine h.of_kept kept fun item hitem => ?_
  have hrecord := List.mem_map_of_mem (f := ItemRow.record) hitem
  rw [same.orderItems] at hrecord
  obtain ⟨old, hold, hrecord⟩ := List.mem_map.mp hrecord
  have hproduct : old.productId = item.productId := congrArg (·.productId) hrecord
  rw [kept.ids_eq, ← hproduct]
  exact h.item_product old hold

theorem withdrawn {clock : Clock} {reason : String} {items : List OrderItem} (h : t.Supplied)
    (hwithdrawn : OrderItem.Withdrawn clock reason items t t') : t'.Supplied :=
  h.of_sameOrders (.restocked hwithdrawn.restocked) (.withdrawn hwithdrawn)

theorem effect {context : Context} {fault : Option Fault} {store : Store} {operation : Operation}
    {events : List Event} (h : store.tables.Supplied)
    (heffect : operation.Effect context fault store events t') : t'.Supplied := by
  have hkept := Product.Kept.effect heffect
  cases hop : operation.checkout? with
  | none => exact h.of_sameOrders hkept (.effect heffect hop)
  | some asked =>
    cases heffect with
    | placed asked hasLines placed =>
      refine h.of_kept hkept fun item hitem => ?_
      rw [placed.orderItems_eq, List.mem_append] at hitem
      rcases hitem with hold | hnew
      · rw [hkept.ids_eq]
        exact h.item_product item hold
      · obtain ⟨new, hitem, rfl⟩ := List.mem_map.mp hnew
        have hstorable := placed.items_storable new hitem
        simp only [OrderItem.isStorable, Bool.and_eq_true, List.any_eq_true, decide_eq_true_eq]
          at hstorable
        obtain ⟨product, hproduct, hid⟩ := hstorable.1.1.1.1.1.1.1.1.1.2
        exact List.mem_map.mpr ⟨product, hproduct, hid⟩
    | _ => cases hop

/-- A product that an item is of is found. -/
theorem exists_product (h : t.Supplied) {item : ItemRow} (hitem : item ∈ t.orderItems) :
    ∃ product, t.products.find? (fun row => row.id = item.productId) = some product ∧
      0 ≤ product.stock := by
  obtain ⟨product, hproduct, hid⟩ := List.mem_map.mp (h.item_product item hitem)
  exact ⟨product, (find?_key_iff h.products_key).mpr ⟨hproduct, hid⟩, h.natural product hproduct⟩

end Tables.Supplied

theorem Step.supplied {currency : String} {step : Step} {store : Store} (served : step.IsServed)
    (h : store.tables.Supplied) : (step.run currency store).store.tables.Supplied :=
  step.keeps currency served h fun _ _ _ _ heffect => h.effect heffect

end Storefront
