import Storefront.Proofs.Catalog.Pricing
import Storefront.Proofs.Order.Coherence

/-!
The balance of a product: what is in stock and what is sold in open items. Checkouts move units from
the one to the other and cancellations move them back, item by item.
-/

namespace Storefront

/-- How many units of a product are sold in items that are not cancelled. -/
def ItemRow.openQuantity (id : ProductId) (rows : List ItemRow) : Int :=
  ((rows.filter fun row => row.productId = id && row.status ≠ word ItemStatus.cancelled).map
    (·.quantity)).sum

/-- How many units of a product some lines ask for. -/
def PricedLine.soldIn (id : ProductId) (lines : List PricedLine) : Int :=
  ((lines.filter fun line => line.productId = id).map (·.quantity)).sum

theorem PricedLine.soldIn_cons (id : ProductId) (line : PricedLine) (lines : List PricedLine) :
    soldIn id (line :: lines) =
      (if line.productId = id then line.quantity else 0) + soldIn id lines := by
  simp only [soldIn, List.filter_cons, decide_eq_true_eq]
  split
  · rw [List.map_cons, List.sum_cons]
  · rw [Int.zero_add]

/-- The stock of each product with units that are elsewhere. -/
def Product.shelf (elsewhere : ProductId → Int) (rows : List Product) : List (ProductId × Int) :=
  rows.map fun row => (row.id, row.stock + elsewhere row.id)

/-- The balance of each product. -/
def Tables.balances (t : Tables) : List (ProductId × Int) :=
  Product.shelf (fun id => ItemRow.openQuantity id t.orderItems) t.products

/-- The products have given balances, and no stock is negative. -/
structure Tables.Balanced (balances : List (ProductId × Int)) (t : Tables) : Prop where
  products_key : (t.products.map (·.id)).Nodup
  balances_eq : t.balances = balances
  natural : ∀ product ∈ t.products, 0 ≤ product.stock

namespace Product

variable {now : Instant} {product next : Product} {rows : List Product}
  {elsewhere elsewhere' : ProductId → Int}

/-- Units that go into the stock of one product and come from elsewhere leave the sums as they
are. -/
theorem shelf_writeTo (unique : (rows.map (·.id)).Nodup)
    (found : rows.find? (fun row => row.id = product.id) = some product)
    (hid : next.id = product.id)
    (hmoved : elsewhere' product.id = elsewhere product.id - (next.stock - product.stock))
    (hothers : ∀ id ≠ product.id, elsewhere' id = elsewhere id) :
    shelf elsewhere' (next.writeTo now rows) = shelf elsewhere rows := by
  obtain ⟨hproduct, -⟩ := mem_of_find?_key found
  rw [shelf, writeTo, updateWhere, List.map_map, shelf]
  apply List.map_congr_left
  intro row hrow
  rw [Function.comp_apply, hid]
  by_cases hsame : row.id = product.id
  · obtain rfl : row = product := eq_of_key_eq unique hrow hproduct hsame
    rw [if_pos (decide_eq_true rfl)]
    refine Prod.ext rfl ?_
    change next.stock + elsewhere' row.id = row.stock + elsewhere row.id
    omega
  · rw [if_neg fun h => hsame (of_decide_eq_true h), hothers row.id hsame]

theorem ids_writeTo (now : Instant) (next : Product) (rows : List Product) :
    (next.writeTo now rows).map (·.id) = rows.map (·.id) :=
  map_updateWhere fun _ => rfl

theorem natural_writeTo (hnext : 0 ≤ next.stock) (h : ∀ row ∈ rows, 0 ≤ row.stock) :
    ∀ row ∈ next.writeTo now rows, 0 ≤ row.stock := by
  intro row hrow
  obtain ⟨old, hold, rfl⟩ := mem_updateWhere.mp hrow
  split
  · exact hnext
  · exact h old hold

end Product

namespace ItemRow

variable {id : ProductId} {rows : List ItemRow}

theorem openQuantity_append (id : ProductId) (front back : List ItemRow) :
    openQuantity id (front ++ back) = openQuantity id front + openQuantity id back := by
  rw [openQuantity, List.filter_append, List.map_append, List.sum_append]
  rfl

/-- An open item is part of what is sold. -/
theorem quantity_le_openQuantity (positive : ∀ row ∈ rows, 0 < row.quantity) {row : ItemRow}
    (hrow : row ∈ rows) (hopen : row.status ≠ word ItemStatus.cancelled) :
    row.quantity ≤ openQuantity row.productId rows := by
  refine List.single_le_sum ?_ _ (List.mem_map_of_mem (List.mem_filter.mpr ⟨hrow, by simp [hopen]⟩))
  exact List.forall_mem_map.mpr fun other hother =>
    Int.le_of_lt (positive other (List.mem_filter.mp hother).1)

/-- A cancelled item is no longer part of what is sold. -/
theorem openQuantity_cancel {clock : Clock} {reason : String} {row : ItemRow}
    (unique : (rows.map (·.id)).Nodup) (hrow : row ∈ rows)
    (hopen : row.status ≠ word ItemStatus.cancelled) (id : ProductId) :
    openQuantity id (updateWhere (fun other => other.id = row.id) (cancel clock reason) rows) =
      openQuantity id rows - if row.productId = id then row.quantity else 0 := by
  simp only [openQuantity, sum_map_filter]
  rw [sum_map_updateWhere_key unique hrow]
  have hcancelled : (cancel clock reason row).status = word ItemStatus.cancelled := rfl
  simp only [hcancelled, hopen, ne_eq, not_true_eq_false, decide_false, Bool.and_false,
    Bool.false_eq_true, if_false, not_false_eq_true, decide_true, Bool.and_true, decide_eq_true_eq]
  omega

end ItemRow
namespace OrderItem

variable {clock : Clock} {reason : String} {t t' : Tables} {item : OrderItem}
  {items : List OrderItem}

/-- An item that can be cancelled is not cancelled. -/
theorem status_row_ne (h : item.status.isCancellable) :
    item.row.status ≠ word ItemStatus.cancelled := by
  intro hstatus
  rw [ItemStatus.word_inj.mp hstatus] at h
  exact absurd h (by decide)

/-- Items are still open once the one before them is cancelled. -/
theorem OpenIn.tail (h : OpenIn t (item :: items))
    (hwithdrawn : Withdrawn clock reason [item] t t') : OpenIn t' items := by
  have hdistinct := h.distinct
  rw [List.map_cons, List.nodup_cons] at hdistinct
  refine ⟨fun other hother => ?_, fun other hother => ?_, hdistinct.2⟩
  · rw [hwithdrawn.orderItems_eq]
    refine mem_updateWhere.mpr ⟨other.row, h.stored other (List.mem_cons_of_mem item hother), ?_⟩
    rw [if_neg]
    intro hid
    have hsame : other.id = item.id := by simpa [row] using hid
    exact hdistinct.1 (hsame ▸ List.mem_map_of_mem hother)
  · exact h.cancellable other (List.mem_cons_of_mem item hother)

end OrderItem

/-- What is sold in the items of a new order is what its lines ask for. -/
theorem OrderItem.openQuantity_ofLines (order : OrderId) (now : Instant) (first : ItemId)
    (lines : List PricedLine) (id : ProductId) :
    ItemRow.openQuantity id ((ofLines order now first lines).map row) =
      PricedLine.soldIn id lines := by
  simp only [ItemRow.openQuantity, PricedLine.soldIn, sum_map_filter, List.map_map]
  refine congrArg List.sum (map_ofLines (fun item line => ?_) first lines)
  have hopen : word ItemStatus.pending ≠ word ItemStatus.cancelled := by simp
  simp only [Function.comp_apply, row, ofLine, hopen, ne_eq, not_false_eq_true, decide_true,
    Bool.and_true]
  rfl

namespace Order.Reserved

variable {clock : Clock} {prices : List Price} {requests : List LineRequest}
  {rows after : List Product} {lines : List PricedLine}

theorem ids_eq (h : Reserved clock prices requests rows lines after) :
    after.map (·.id) = rows.map (·.id) := by
  induction h with
  | nil rows => rfl
  | cons found priced natural reserved ih => rw [ih, Product.ids_writeTo]

theorem natural (h : Reserved clock prices requests rows lines after)
    (hrows : ∀ row ∈ rows, 0 ≤ row.stock) : ∀ row ∈ after, 0 ≤ row.stock := by
  induction h with
  | nil rows => exact hrows
  | cons found priced natural reserved ih => exact ih (Product.natural_writeTo natural hrows)

/-- The units of the lines leave the stock of their products. -/
theorem shelf_eq (h : Reserved clock prices requests rows lines after)
    (unique : (rows.map (·.id)).Nodup) (elsewhere : ProductId → Int) :
    Product.shelf (fun id => elsewhere id + PricedLine.soldIn id lines) after =
      Product.shelf elsewhere rows := by
  induction h generalizing elsewhere with
  | nil rows =>
    have hnone : (fun id => elsewhere id + PricedLine.soldIn id []) = elsewhere := by
      funext id
      exact Int.add_zero _
    rw [hnone]
  | @cons request rest product line lines rows after found priced natural reserved ih =>
    obtain ⟨-, hproduct, hquantity, -⟩ := exact_of_priceLine priced
    have hid : product.id = request.productId := (mem_of_find?_key found).2
    rw [← hid] at found
    have hunits : (fun id => elsewhere id + PricedLine.soldIn id (line :: lines)) =
        fun id => (elsewhere id + if line.productId = id then line.quantity else 0) +
          PricedLine.soldIn id lines := by
      funext id
      rw [PricedLine.soldIn_cons, Int.add_assoc]
    rw [hunits, ih (by rw [Product.ids_writeTo]; exact unique)
      fun id => elsewhere id + if line.productId = id then line.quantity else 0]
    refine Product.shelf_writeTo unique found rfl ?_ fun id hne => ?_
    · rw [if_pos hproduct, hquantity]
      dsimp only
      omega
    · rw [if_neg fun hsame => hne (hsame.symm.trans hproduct)]
      omega

end Order.Reserved

namespace Tables.Balanced

variable {clock : Clock} {reason : String} {balances : List (ProductId × Int)} {t t' : Tables}

theorem congr (h : t.Balanced balances) (hproducts : t'.products = t.products)
    (hitems : t'.orderItems = t.orderItems) : t'.Balanced balances := by
  refine ⟨?_, ?_, ?_⟩
  · rw [hproducts]
    exact h.products_key
  · rw [← h.balances_eq, Tables.balances, Tables.balances, hproducts, hitems]
  · rw [hproducts]
    exact h.natural

/-- A cancelled item goes back into the stock of its product. -/
theorem withdrawOne {item : OrderItem} (coherent : t.Coherent) (h : t.Balanced balances)
    (hopen : OrderItem.OpenIn t [item])
    (hwithdrawn : OrderItem.Withdrawn clock reason [item] t t') :
    t'.Balanced balances := by
  have hstored := hopen.stored item List.mem_cons_self
  have hstatus := OrderItem.status_row_ne (hopen.cancellable item List.mem_cons_self)
  have hsold (id : ProductId) : ItemRow.openQuantity id t'.orderItems =
      ItemRow.openQuantity id t.orderItems - if item.productId = id then item.quantity else 0 := by
    rw [hwithdrawn.orderItems_eq, ItemRow.cancelAll_cons, ItemRow.cancelAll_nil]
    exact ItemRow.openQuantity_cancel coherent.items_key hstored hstatus id
  obtain _ | @⟨_, _, product, _, _, hfound, hnatural, hrest⟩ := hwithdrawn.restocked
  generalize hproducts : t'.products = products at hrest
  obtain _ | _ := hrest
  have hid : product.id = item.productId := (mem_of_find?_key hfound).2
  rw [← hid] at hfound
  constructor
  · rw [hproducts, Product.ids_writeTo]
    exact h.products_key
  · rw [← h.balances_eq, Tables.balances, hproducts, Tables.balances]
    refine Product.shelf_writeTo h.products_key hfound rfl ?_ fun id hne => ?_
    · rw [hsold, if_pos hid.symm]
      dsimp only
      omega
    · rw [hsold, if_neg fun hsame => hne (hsame.symm.trans hid.symm)]
      omega
  · rw [hproducts]
    exact Product.natural_writeTo hnatural h.natural

/-- Cancelled items go back into stock one after the other. -/
theorem withdrawn {items : List OrderItem} (coherent : t.Coherent) (h : t.Balanced balances)
    (hopen : OrderItem.OpenIn t items) (hwithdrawn : OrderItem.Withdrawn clock reason items t t') :
    t'.Balanced balances := by
  induction items generalizing t with
  | nil =>
    have hitems := hwithdrawn.orderItems_eq
    rw [ItemRow.cancelAll_nil] at hitems
    have hproducts : t'.products = t.products := by
      obtain ⟨products, hproducts, rfl⟩ := hwithdrawn
      cases hproducts
      rfl
    exact h.congr hproducts hitems
  | cons item rest ih =>
    obtain ⟨middle, hone, hrest⟩ := OrderItem.Withdrawn.cons_iff.mp hwithdrawn
    have hfirst : OrderItem.OpenIn t [item] := OrderItem.openIn_singleton
      (hopen.stored item List.mem_cons_self) (hopen.cancellable item List.mem_cons_self)
    exact ih (coherent.withdrawn hone) (h.withdrawOne coherent hfirst hone) (hopen.tail hone) hrest

theorem amended {order : Order} {items : List OrderItem} {change : Order × Option Payment}
    (coherent : t.Coherent) (h : t.Balanced balances)
    (hamended : Order.Amended clock t order items change t') : t'.Balanced balances := by
  obtain ⟨reason, middle, hwithdrawn, rfl⟩ := hamended.changed
  exact (h.withdrawn coherent hamended.items_open hwithdrawn).congr rfl rfl

/-- What is sold leaves the stock. -/
theorem placed {user : UserId} {addressId : AddressId} {method : PaymentMethod}
    {source : Order.Source} {store : Store} {address : Address} {cart : Option CartId}
    {requests : List LineRequest} {lines : List PricedLine} {order : Order}
    (h : store.tables.Balanced balances)
    (hplaced : Order.Placed clock user addressId method source store address cart requests lines
      order t') : t'.Balanced balances := by
  have hreserved := hplaced.reserved
  refine ⟨?_, ?_, hreserved.natural h.natural⟩
  · rw [hreserved.ids_eq]
    exact h.products_key
  · have hsold : (fun id => ItemRow.openQuantity id t'.orderItems) = fun id =>
        ItemRow.openQuantity id store.tables.orderItems + PricedLine.soldIn id lines := by
      funext id
      rw [hplaced.orderItems_eq, ItemRow.openQuantity_append, Order.Placed.itemsOf,
        OrderItem.openQuantity_ofLines]
    rw [← h.balances_eq, Tables.balances, hsold, hreserved.shelf_eq h.products_key]
    rfl

/-- A product that is revised without a new stock keeps its balance. -/
theorem revised {product : Product} (h : t.Balanced balances) (now : Instant) (isActive : Bool)
    (found : t.products.find? (fun row => row.id = product.id) = some product) :
    Balanced balances { t with
      products := Product.writeTo { product with isActive } now t.products } := by
  refine ⟨?_, ?_, ?_⟩
  · rw [Product.ids_writeTo]
    exact h.products_key
  · rw [← h.balances_eq, Tables.balances, Tables.balances]
    refine Product.shelf_writeTo h.products_key found rfl ?_ fun _ _ => rfl
    dsimp only
    omega
  · exact Product.natural_writeTo (h.natural product (mem_of_find?_key found).1) h.natural

/-- What an operation does keeps the balances, unless it sets a stock. -/
theorem effect {context : Context} {fault : Option Fault} {store : Store} {operation : Operation}
    {events : List Event} (coherent : store.tables.Coherent) (h : store.tables.Balanced balances)
    (unset : ∀ id stock isActive, operation ≠ .reviseProduct id (some stock) isActive)
    (heffect : operation.Effect context fault store events t') : t'.Balanced balances := by
  cases heffect with
  | placed asked hasLines placed => exact h.placed placed
  | itemCancelled cancelled => exact h.amended coherent cancelled.amended
  | orderCancelled cancelled => exact h.amended coherent (cancelled.amended coherent)
  | orderRefunded cancelled answered due refund =>
    have hamended := cancelled.amended coherent
    exact (h.amended coherent hamended).amended (coherent.amended hamended) refund.amended
  | refundFailed cancelled => exact h.amended coherent (cancelled.amended coherent)
  | statusChanged moved => exact h.amended coherent (moved.amended coherent)
  | intentCreated opened =>
    rw [opened.changed]
    exact h.congr rfl rfl
  | @paymentConfirmed _ _ _ _ _ confirmation _ called changes =>
    cases confirmation with
    | alreadyPaid => exact absurd rfl changes
    | paid => exact h.amended coherent called.amended
    | failed =>
      rw [called.changed]
      exact h.congr rfl rfl
  | refunded refund => exact h.amended coherent refund.amended
  | cartCreated created =>
    rw [created.changed]
    exact h.congr rfl rfl
  | cartReplaced untouched =>
    rw [untouched]
    exact h.congr rfl rfl
  | @productRevised id stock isActive product _ found natural changed =>
    rw [changed]
    cases stock with
    | some stock => exact absurd rfl (unset id stock isActive)
    | none =>
      rw [← (mem_of_find?_key found).2] at found
      exact h.revised context.clock.store (isActive.getD product.isActive) found

end Tables.Balanced
end Storefront
