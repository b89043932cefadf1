import Storefront.Proofs.Service.Scope
import Storefront.Proofs.Store.Storage

/-!
What cancellations and moves of an order write. Items that are cancelled go back into stock, one
after the other; then the order is written back, and its payment where it changes too.
-/

namespace Storefront

/-- An item's row once it is cancelled. -/
def ItemRow.cancel (clock : Clock) (reason : String) (row : ItemRow) : ItemRow :=
  { row with
    status := word ItemStatus.cancelled
    cancellationReason := some reason
    cancelledAt := some clock.wall
    updatedAt := clock.store }

/-- The items once some of them are cancelled. -/
def ItemRow.cancelAll (clock : Clock) (reason : String) (items : List OrderItem)
    (rows : List ItemRow) : List ItemRow :=
  updateWhere (fun row => row.id ∈ items.map (·.id)) (ItemRow.cancel clock reason) rows

/-- The units of some items are put back into stock, one item after the other. -/
inductive Product.Restocked (now : Instant) : List OrderItem → List Product → List Product → Prop
  | nil (rows : List Product) : Restocked now [] rows rows
  | cons {item : OrderItem} {rest : List OrderItem} {product : Product} {rows after : List Product}
      (found : rows.find? (fun row => row.id = item.productId) = some product)
      (natural : 0 ≤ product.stock + item.quantity)
      (restocked : Restocked now rest
        (Product.writeTo { product with stock := product.stock + item.quantity } now rows) after) :
      Restocked now (item :: rest) rows after

/-- Some items are cancelled and their units are back in stock. -/
def OrderItem.Withdrawn (clock : Clock) (reason : String) (items : List OrderItem)
    (t t' : Tables) : Prop :=
  ∃ products, Product.Restocked clock.store items t.products products ∧
    t' = { t with products, orderItems := ItemRow.cancelAll clock reason items t.orderItems }

/-- The open items of an order in the order in which they are cancelled. -/
def OrderItem.openByProduct (items : List OrderItem) : List OrderItem :=
  (sortBy (fun a b => a.productId ≤ b.productId) items).filter (·.status.isCancellable)

/-- An order and perhaps a payment are written back. -/
def Tables.amend (now : Instant) (change : Order × Option Payment) (t : Tables) : Tables :=
  { t with
    orders := change.1.writeTo now t.orders
    payments := Payment.writeTo now change.2 t.payments }

def Order.stamp (order : Order) (now : Instant) : Order :=
  { order with updatedAt := now }

/-- The columns of an order that never change. -/
def Order.fixed (order : Order) :
    OrderId × UserId × Cents × Cents × Option AddressId × Instant :=
  (order.id, order.userId, order.total, order.discount, order.shippingAddressId, order.createdAt)

def Payment.stamp (payment : Payment) (now : Instant) : Payment :=
  { payment with updatedAt := now }

open Session

variable {context : Context} {p p' : Progress}

namespace ItemRow

variable {clock : Clock} {reason : String}

@[simp] theorem cancelAll_nil (rows : List ItemRow) : cancelAll clock reason [] rows = rows :=
  updateWhere_eq_self fun _ _ => by simp

theorem cancelAll_cons (item : OrderItem) (rest : List OrderItem) (rows : List ItemRow) :
    cancelAll clock reason (item :: rest) rows =
      cancelAll clock reason rest
        (updateWhere (fun row => row.id = item.id) (cancel clock reason) rows) := by
  have h : (fun row : ItemRow => decide (row.id ∈ (item :: rest).map (·.id))) =
      fun row => decide (row.id = item.id) || decide (row.id ∈ rest.map (·.id)) := by
    funext row
    rw [List.map_cons, ← Bool.decide_or]
    exact decide_eq_decide.mpr List.mem_cons
  rw [cancelAll, cancelAll, h, updateWhere_updateWhere]
  · exact fun _ => rfl
  · exact fun _ => rfl

end ItemRow

namespace OrderItem.Withdrawn

variable {clock : Clock} {reason : String} {items : List OrderItem} {t t' : Tables}

theorem orders_eq (h : Withdrawn clock reason items t t') : t'.orders = t.orders := by
  obtain ⟨products, -, rfl⟩ := h
  rfl

theorem payments_eq (h : Withdrawn clock reason items t t') : t'.payments = t.payments := by
  obtain ⟨products, -, rfl⟩ := h
  rfl

theorem orderItems_eq (h : Withdrawn clock reason items t t') :
    t'.orderItems = ItemRow.cancelAll clock reason items t.orderItems := by
  obtain ⟨products, -, rfl⟩ := h
  rfl

theorem restocked (h : Withdrawn clock reason items t t') :
    Product.Restocked clock.store items t.products t'.products := by
  obtain ⟨products, hproducts, rfl⟩ := h
  exact hproducts

/-- Items are withdrawn one after the other. -/
theorem cons_iff {item : OrderItem} :
    Withdrawn clock reason (item :: items) t t' ↔
      ∃ middle, Withdrawn clock reason [item] t middle ∧
        Withdrawn clock reason items middle t' := by
  constructor
  · rintro ⟨products, hproducts, rfl⟩
    obtain _ | ⟨hfound, hnatural, hrest⟩ := hproducts
    refine ⟨_, ⟨_, .cons hfound hnatural (.nil _), rfl⟩, products, hrest, ?_⟩
    rw [ItemRow.cancelAll_cons item items, ItemRow.cancelAll_cons item [], ItemRow.cancelAll_nil]
  · rintro ⟨_, ⟨_, hone, rfl⟩, products, hrest, rfl⟩
    obtain _ | ⟨hfound, hnatural, hnone⟩ := hone
    cases hnone
    refine ⟨products, .cons hfound hnatural hrest, ?_⟩
    rw [ItemRow.cancelAll_cons item items, ItemRow.cancelAll_cons item [], ItemRow.cancelAll_nil]

end OrderItem.Withdrawn

theorem Order.id_of_fixed {order next : Order} (h : next.fixed = order.fixed) :
    next.id = order.id :=
  congrArg (fun columns => columns.1) h

/-- A row overwritten by an order with the same fixed columns is that order's row. -/
theorem Order.overwrite_row {order next : Order} {now : Instant} (h : next.fixed = order.fixed) :
    next.overwrite now order.row = (next.stamp now).row := by
  simp only [fixed, Prod.mk.injEq] at h
  obtain ⟨hid, huser, htotal, hdiscount, haddress, hcreated⟩ := h
  simp only [overwrite, row, stamp, hid, huser, htotal, hdiscount, haddress, hcreated]

/-- Writing back an order changes its row alone. -/
theorem Order.writeTo_eq {order next : Order} {now : Instant} {rows : List OrderRow}
    {f : OrderRow → OrderRow} (key : (rows.map (·.id)).Nodup) (stored : order.row ∈ rows)
    (fixed : next.fixed = order.fixed) (h : f order.row = (next.stamp now).row) :
    next.writeTo now rows = updateWhere (fun row => row.id = order.id) f rows := by
  refine updateWhere_congr (fun row _ => ?_) fun row hrow hid => ?_
  · rw [id_of_fixed fixed]
  · rw [decide_eq_true_eq, id_of_fixed fixed] at hid
    obtain rfl : row = order.row := eq_of_key_eq key hrow stored hid
    rw [overwrite_row fixed, h]

theorem Order.id_of_found {order : Order} {id : OrderId} {rows : List OrderRow}
    (h : rows.find? (fun row => row.id = id) = some order.row) : order.id = id :=
  (mem_of_find?_key h).2

/-- Writing back an order that was read answers the order as it is written. -/
theorem Order.returns_save_of_found {order next saved : Order} (calm : p.fault = none)
    (found : p.tables.orders.find? (fun row => row.id = order.id) = some order.row)
    (fixed : next.fixed = order.fixed) (h : Returns (save next) context p saved p') :
    saved = next.stamp context.clock.store ∧
      p'.tables = { p.tables with
        orders := next.writeTo context.clock.store p.tables.orders } := by
  obtain ⟨row, hrow, -, hsaved, rfl⟩ := (returns_save calm).mp h
  rw [id_of_fixed fixed, found, Option.some.injEq] at hrow
  rw [← hrow, overwrite_row fixed] at hsaved
  exact ⟨row_injective hsaved, rfl⟩

/-- An order that was read can be written back if its total fits. -/
theorem Order.succeeds_save {order next : Order} (calm : p.fault = none)
    (found : p.tables.orders.find? (fun row => row.id = order.id) = some order.row)
    (fixed : next.fixed = order.fixed) (fits : fitsNumeric 12 next.finalTotal) :
    Succeeds (save next) context p := by
  rw [← id_of_fixed fixed] at found
  exact ⟨_, _, (returns_save calm).mpr ⟨order.row, found, fits, (overwrite_row fixed).symm, rfl⟩⟩

/-- An overwritten row of an item stands for an item. -/
theorem OrderItem.exists_row_overwrite (item : OrderItem) (now : Instant) (row : ItemRow) :
    ∃ saved : OrderItem, saved.row = item.overwrite now row :=
  ⟨{ row.toItemColumns with
      status := item.status
      cancellationReason := item.cancellationReason
      cancelledAt := item.cancelledAt
      updatedAt := now }, rfl⟩

namespace Product

@[simp] theorem returns_restock {id : ProductId} {quantity : Int} {u : Unit}
    (calm : p.fault = none) :
    Returns (restock id quantity) context p u p' ↔
      ∃ product, p.tables.products.find? (fun row => row.id = id) = some product ∧
        0 ≤ product.stock + quantity ∧
        p' = { p with
          overflowed := p.overflowed || !Text.fitsSigned 32 (product.stock + quantity)
          tables := { p.tables with
            products := Product.writeTo { product with stock := product.stock + quantity }
              context.clock.store p.tables.products } } := by
  simp only [restock, returns_bind, returns_find calm, returns_found, returns_recordStock,
    returns_discard, and_assoc, exists_and_left, exists_eq_left]
  constructor
  · rintro ⟨product, hproduct, _, saved, hsaved⟩
    obtain ⟨row, hrow, hnatural, -, rfl⟩ := (returns_save (by exact calm)).mp hsaved
    exact ⟨product, hproduct, hnatural, rfl⟩
  · rintro ⟨product, hproduct, hnatural, rfl⟩
    obtain ⟨-, hid⟩ := mem_of_find?_key hproduct
    have hsame : p.tables.products.find? (fun row => row.id = product.id) = some product := by
      rw [hid]
      exact hproduct
    exact ⟨product, hproduct, ⟨⟩, _,
      (returns_save (by exact calm)).mpr ⟨product, hsame, hnatural, rfl, rfl⟩⟩

theorem returns_revise {id : ProductId} {stock : Option Int} {isActive : Option Bool}
    {answer : Product} (calm : p.fault = none)
    (h : Returns (revise id stock isActive) context p answer p') :
    ∃ product, p.tables.products.find? (fun row => row.id = id) = some product ∧
      0 ≤ stock.getD product.stock ∧
      p'.tables = { p.tables with
        products := Product.writeTo { product with
          stock := stock.getD product.stock
          isActive := isActive.getD product.isActive } context.clock.store p.tables.products } := by
  unfold revise at h
  simp only [returns_bind, returns_require, returns_transaction, returns_find calm, returns_found,
    and_assoc, exists_and_left, exists_eq_left, exists_const] at h
  obtain ⟨-, product, hproduct, hsave⟩ := h
  obtain ⟨row, -, hnatural, -, rfl⟩ := (returns_save calm).mp hsave
  exact ⟨product, hproduct, hnatural, rfl⟩

end Product

namespace Order

theorem returns_cancelOne {reason : String} {now : Instant} {item : OrderItem} {u : Unit}
    (calm : p.fault = none) :
    Returns (cancelOne reason now item) context p u p' ↔
      ∃ row product,
        p.tables.orderItems.find? (fun row => row.id = item.id) = some row ∧ fitsText reason ∧
        p.tables.products.find? (fun row => row.id = item.productId) = some product ∧
        0 ≤ product.stock + item.quantity ∧
        p' = { p with
          overflowed := p.overflowed || !Text.fitsSigned 32 (product.stock + item.quantity)
          tables := { p.tables with
            products := Product.writeTo { product with stock := product.stock + item.quantity }
              context.clock.store p.tables.products
            orderItems := updateWhere (fun row => row.id = item.id)
              (ItemRow.cancel ⟨context.clock.store, now⟩ reason) p.tables.orderItems } } := by
  simp only [cancelOne, returns_bind, returns_discard]
  constructor
  · rintro ⟨_, middle, ⟨saved, hsaved⟩, hrestock⟩
    obtain ⟨row, hrow, hreason, -, rfl⟩ := (OrderItem.returns_save calm).mp hsaved
    obtain ⟨product, hproduct, hnatural, rfl⟩ :=
      (Product.returns_restock (by exact calm)).mp hrestock
    exact ⟨row, product, hrow, by simpa using hreason, hproduct, hnatural, rfl⟩
  · rintro ⟨row, product, hrow, hreason, hproduct, hnatural, rfl⟩
    obtain ⟨saved, hsaved⟩ := OrderItem.exists_row_overwrite { item with
      status := .cancelled
      cancellationReason := some reason
      cancelledAt := some now } context.clock.store row
    refine ⟨⟨⟩, _, ⟨saved, (OrderItem.returns_save calm).mpr ⟨row, hrow, ?_, hsaved, rfl⟩⟩, ?_⟩
    · simpa using hreason
    · exact (Product.returns_restock (by exact calm)).mpr ⟨product, hproduct, hnatural, rfl⟩

theorem withdrawn_of_returns_cancelOne {reason : String} {item : OrderItem} (calm : p.fault = none)
    (h : Returns (cancelOne reason context.clock.wall item) context p ⟨⟩ p') :
    OrderItem.Withdrawn context.clock reason [item] p.tables p'.tables := by
  obtain ⟨row, product, hrow, -, hproduct, hnatural, rfl⟩ := (returns_cancelOne calm).mp h
  refine ⟨_, .cons hproduct hnatural (.nil _), ?_⟩
  rw [ItemRow.cancelAll_cons, ItemRow.cancelAll_nil]

/-- Cancelling items one after the other withdraws them all. -/
theorem withdrawn_of_returns_forM {reason : String} {items : List OrderItem}
    (calm : p.fault = none)
    (h : Returns (forM items (cancelOne reason context.clock.wall)) context p ⟨⟩ p') :
    OrderItem.Withdrawn context.clock reason items p.tables p'.tables := by
  induction items generalizing p with
  | nil =>
    obtain rfl := returns_forM_nil.mp h
    exact ⟨_, .nil _, by simp⟩
  | cons item rest ih =>
    obtain ⟨middle, hone, hrest⟩ := returns_forM_cons.mp h
    exact OrderItem.Withdrawn.cons_iff.mpr ⟨middle.tables, withdrawn_of_returns_cancelOne calm hone,
      ih (hone.fault_eq_none calm) hrest⟩

theorem withdrawn_of_returns_cancelOpenItems {id : OrderId} {reason : String} {u : Unit}
    (calm : p.fault = none)
    (h : Returns (cancelOpenItems id reason context.clock.wall) context p u p') :
    ∃ items, OrderItem.ListedIn id items p.tables.orderItems ∧
      OrderItem.Withdrawn context.clock reason (OrderItem.openByProduct items) p.tables
        p'.tables := by
  obtain ⟨items, middle, hitems, hloop⟩ := returns_bind.mp h
  obtain ⟨hlisted, rfl⟩ := (OrderItem.returns_listFor calm).mp hitems
  rw [List.forM_eq_forM] at hloop
  exact ⟨items, hlisted, withdrawn_of_returns_forM calm hloop⟩

end Order
end Storefront
