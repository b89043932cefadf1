import Storefront.Proofs.Session.Scope
import Storefront.Proofs.Store.Rows
import Storefront.Service.Operation

/-!
What the functions of the storage return in a session that meets no fault. Looking something up
returns what is stored and changes nothing; writing back overwrites the rows of one identifier.
-/

namespace Storefront

theorem Worded.word_of_ofWord? {α : Type} [Worded α] {text : String} {a : α}
    (h : Worded.ofWord? text = some a) : word a = text := by
  simpa using List.find?_some h

/-- Words that can be read back are told apart. -/
theorem Worded.word_injective {α : Type} [Worded α] (h : ∀ a : α, ofWord? (word a) = some a) :
    Function.Injective (word : α → String) := by
  intro a b hab
  have hread := congrArg (fun text => (ofWord? text : Option α)) hab
  rw [h, h] at hread
  exact Option.some.inj hread

@[simp] theorem OrderStatus.word_inj {a b : OrderStatus} : word a = word b ↔ a = b :=
  (Worded.word_injective OrderStatus.ofWord?_word).eq_iff

@[simp] theorem ItemStatus.word_inj {a b : ItemStatus} : word a = word b ↔ a = b :=
  (Worded.word_injective ItemStatus.ofWord?_word).eq_iff

@[simp] theorem PaymentStatus.word_inj {a b : PaymentStatus} : word a = word b ↔ a = b :=
  (Worded.word_injective PaymentStatus.ofWord?_word).eq_iff

@[simp] theorem PaymentMethod.word_inj {a b : PaymentMethod} : word a = word b ↔ a = b :=
  (Worded.word_injective PaymentMethod.ofWord?_word).eq_iff

theorem OrderRow.order?_eq_some_iff {row : OrderRow} {order : Order} :
    row.order? = some order ↔ row = order.row := by
  constructor
  · intro h
    simp only [order?, Option.pure_def, Option.bind_eq_bind, Option.bind_eq_some_iff,
      Option.some.injEq] at h
    obtain ⟨status, hstatus, method, hmethod, payment, hpayment, rfl⟩ := h
    simp only [Order.row, Worded.word_of_ofWord? hstatus, Worded.word_of_ofWord? hmethod,
      Worded.word_of_ofWord? hpayment]
  · rintro rfl
    exact order?_row order

theorem ItemRow.item?_eq_some_iff {row : ItemRow} {item : OrderItem} :
    row.item? = some item ↔ row = item.row := by
  constructor
  · intro h
    simp only [item?, Option.pure_def, Option.bind_eq_bind, Option.bind_eq_some_iff,
      Option.some.injEq] at h
    obtain ⟨status, hstatus, rfl⟩ := h
    simp only [OrderItem.row, Worded.word_of_ofWord? hstatus]
  · rintro rfl
    exact item?_row item

theorem PaymentRow.payment?_eq_some_iff {row : PaymentRow} {payment : Payment} :
    row.payment? = some payment ↔ row = payment.row := by
  constructor
  · intro h
    simp only [payment?, Option.pure_def, Option.bind_eq_bind, Option.bind_eq_some_iff,
      Option.some.injEq] at h
    obtain ⟨method, hmethod, status, hstatus, rfl⟩ := h
    simp only [Payment.row, Worded.word_of_ofWord? hmethod, Worded.word_of_ofWord? hstatus]
  · rintro rfl
    exact payment?_row payment

theorem Order.row_injective : Function.Injective Order.row := by
  intro a b h
  simpa using congrArg OrderRow.order? h

theorem OrderItem.row_injective : Function.Injective OrderItem.row := by
  intro a b h
  simpa using congrArg ItemRow.item? h

theorem Payment.row_injective : Function.Injective Payment.row := by
  intro a b h
  simpa using congrArg PaymentRow.payment? h

/-! The rows of a table after a write. -/

/-- The orders with an order written back. -/
def Order.writeTo (order : Order) (now : Instant) (rows : List OrderRow) : List OrderRow :=
  updateWhere (fun row => row.id = order.id) (order.overwrite now) rows

/-- The payments with a payment written back, if there is one. -/
def Payment.writeTo (now : Instant) : Option Payment → List PaymentRow → List PaymentRow
  | none, rows => rows
  | some payment, rows => updateWhere (fun row => row.id = payment.id) (payment.overwrite now) rows

/-- The items with an item written back. -/
def OrderItem.writeTo (item : OrderItem) (now : Instant) (rows : List ItemRow) : List ItemRow :=
  updateWhere (fun row => row.id = item.id) (item.overwrite now) rows

/-- The products with the stock and the availability of a product written back. -/
def Product.writeTo (product : Product) (now : Instant) (rows : List Product) : List Product :=
  updateWhere (fun row => row.id = product.id) (product.overwrite now) rows

/-- The items of an order, by identifier. -/
def OrderItem.ListedIn (order : OrderId) (items : List OrderItem) (rows : List ItemRow) : Prop :=
  sortBy (fun a b => a.id ≤ b.id) (rows.filter fun row => row.orderId = order) =
    items.map OrderItem.row

/-- The payment of an order, if it has one. -/
def Payment.FoundIn (order : OrderId) (payment : Option Payment) (rows : List PaymentRow) : Prop :=
  rows.find? (fun row => row.orderId = order) = payment.map Payment.row

open Session

variable {context : Context} {p p' : Progress}

namespace Product

@[simp] theorem returns_find {id : ProductId} {found : Option Product} (calm : p.fault = none) :
    Returns (find id) context p found p' ↔
      found = p.tables.products.find? (fun row => row.id = id) ∧ p' = p := by
  simp [find, calm, Table.products]

@[simp] theorem returns_save {product saved : Product} (calm : p.fault = none) :
    Returns (save product) context p saved p' ↔
      ∃ row, p.tables.products.find? (fun row => row.id = product.id) = some row ∧
        0 ≤ product.stock ∧ saved = product.overwrite context.clock.store row ∧
        p' = { p with tables := { p.tables with
          products := product.writeTo context.clock.store p.tables.products } } := by
  rw [save, returns_bind_storeTime, Table.returns_update calm]
  constructor
  · rintro ⟨row, hrow, hstock, rfl, rfl⟩
    exact ⟨row, hrow, of_decide_eq_true hstock, rfl, rfl⟩
  · rintro ⟨row, hrow, hstock, rfl, rfl⟩
    exact ⟨row, hrow, decide_eq_true hstock, rfl, rfl⟩

end Product

namespace Order

@[simp] theorem returns_find {id : OrderId} {found : Option Order} (calm : p.fault = none) :
    Returns (find id) context p found p' ↔
      p.tables.orders.find? (fun row => row.id = id) = found.map row ∧ p' = p := by
  simp only [find, returns_bind, Table.returns_selectFirst calm,
    returns_readFound fun _ _ => OrderRow.order?_eq_some_iff]
  constructor
  · rintro ⟨_, _, ⟨rfl, rfl⟩, h, rfl⟩
    exact ⟨h, rfl⟩
  · rintro ⟨h, rfl⟩
    exact ⟨_, p', ⟨rfl, rfl⟩, h, rfl⟩

@[simp] theorem returns_requireOwner {user : UserId} {order : Order} {u : Unit} :
    Returns (requireOwner user order) context p u p' ↔ order.userId = user ∧ p' = p := by
  simp [requireOwner]

@[simp] theorem returns_save {order saved : Order} (calm : p.fault = none) :
    Returns (save order) context p saved p' ↔
      ∃ row, p.tables.orders.find? (fun row => row.id = order.id) = some row ∧
        fitsNumeric 12 order.finalTotal ∧ saved.row = order.overwrite context.clock.store row ∧
        p' = { p with tables := { p.tables with
          orders := order.writeTo context.clock.store p.tables.orders } } := by
  rw [save, returns_bind_storeTime]
  simp only [returns_bind, Table.returns_update calm, returns_found,
    OrderRow.order?_eq_some_iff]
  constructor
  · rintro ⟨_, _, ⟨row, hrow, hfits, rfl, rfl⟩, hsaved, rfl⟩
    exact ⟨row, hrow, hfits, hsaved.symm, rfl⟩
  · rintro ⟨row, hrow, hfits, hsaved, rfl⟩
    exact ⟨_, _, ⟨row, hrow, hfits, rfl, rfl⟩, hsaved.symm, rfl⟩

end Order

namespace OrderItem

@[simp] theorem returns_listFor {order : OrderId} {items : List OrderItem} (calm : p.fault = none) :
    Returns (listFor order) context p items p' ↔
      ListedIn order items p.tables.orderItems ∧ p' = p := by
  simp only [listFor, returns_bind, Table.returns_select calm,
    returns_readRows fun _ _ => ItemRow.item?_eq_some_iff]
  constructor
  · rintro ⟨_, _, ⟨rfl, rfl⟩, h, rfl⟩
    exact ⟨h, rfl⟩
  · rintro ⟨h, rfl⟩
    exact ⟨_, p', ⟨rfl, rfl⟩, h, rfl⟩

@[simp] theorem returns_find {order : OrderId} {id : ItemId} {found : Option OrderItem}
    (calm : p.fault = none) :
    Returns (find order id) context p found p' ↔
      p.tables.orderItems.find? (fun row => row.id = id && row.orderId = order) =
        found.map row ∧ p' = p := by
  simp only [find, returns_bind, Table.returns_selectFirst calm,
    returns_readFound fun _ _ => ItemRow.item?_eq_some_iff]
  constructor
  · rintro ⟨_, _, ⟨rfl, rfl⟩, h, rfl⟩
    exact ⟨h, rfl⟩
  · rintro ⟨h, rfl⟩
    exact ⟨_, p', ⟨rfl, rfl⟩, h, rfl⟩

@[simp] theorem returns_save {item saved : OrderItem} (calm : p.fault = none) :
    Returns (save item) context p saved p' ↔
      ∃ row, p.tables.orderItems.find? (fun row => row.id = item.id) = some row ∧
        item.cancellationReason.all fitsText ∧
        saved.row = item.overwrite context.clock.store row ∧
        p' = { p with tables := { p.tables with
          orderItems := item.writeTo context.clock.store p.tables.orderItems } } := by
  rw [save, returns_bind_storeTime]
  simp only [returns_bind, Table.returns_update calm, returns_found,
    ItemRow.item?_eq_some_iff]
  constructor
  · rintro ⟨_, _, ⟨row, hrow, hfits, rfl, rfl⟩, hsaved, rfl⟩
    exact ⟨row, hrow, hfits, hsaved.symm, rfl⟩
  · rintro ⟨row, hrow, hfits, hsaved, rfl⟩
    exact ⟨_, _, ⟨row, hrow, hfits, rfl, rfl⟩, hsaved.symm, rfl⟩

end OrderItem

namespace Payment

@[simp] theorem returns_find {id : Uuid} {found : Option Payment} (calm : p.fault = none) :
    Returns (find id) context p found p' ↔
      p.tables.payments.find? (fun row => row.id = id) = found.map row ∧ p' = p := by
  simp only [find, returns_bind, Table.returns_selectFirst calm,
    returns_readFound fun _ _ => PaymentRow.payment?_eq_some_iff]
  constructor
  · rintro ⟨_, _, ⟨rfl, rfl⟩, h, rfl⟩
    exact ⟨h, rfl⟩
  · rintro ⟨h, rfl⟩
    exact ⟨_, p', ⟨rfl, rfl⟩, h, rfl⟩

@[simp] theorem returns_findForOrder {order : OrderId} {found : Option Payment}
    (calm : p.fault = none) :
    Returns (findForOrder order) context p found p' ↔
      FoundIn order found p.tables.payments ∧ p' = p := by
  simp only [findForOrder, returns_bind, Table.returns_selectFirst calm,
    returns_readFound fun _ _ => PaymentRow.payment?_eq_some_iff]
  constructor
  · rintro ⟨_, _, ⟨rfl, rfl⟩, h, rfl⟩
    exact ⟨h, rfl⟩
  · rintro ⟨h, rfl⟩
    exact ⟨_, p', ⟨rfl, rfl⟩, h, rfl⟩

@[simp] theorem returns_findByGateway {reference : String} {found : Option Payment}
    (calm : p.fault = none) :
    Returns (findByGateway reference) context p found p' ↔
      fitsText reference ∧
        p.tables.payments.find? (fun row => row.gatewayId = some reference) = found.map row ∧
        p' = p := by
  simp only [findByGateway, returns_bind, returns_constraint, returns_readFound fun _ _ =>
    PaymentRow.payment?_eq_some_iff]
  constructor
  · rintro ⟨_, _, ⟨hfits, rfl⟩, _, _, hrow, h, rfl⟩
    obtain ⟨rfl, rfl⟩ := (Table.returns_selectFirst calm).mp hrow
    exact ⟨hfits, h, rfl⟩
  · rintro ⟨hfits, h, rfl⟩
    exact ⟨⟨⟩, p', ⟨hfits, rfl⟩, _, p', (Table.returns_selectFirst calm).mpr ⟨rfl, rfl⟩, h, rfl⟩

@[simp] theorem returns_save {payment saved : Payment} (calm : p.fault = none) :
    Returns (save payment) context p saved p' ↔
      ∃ row, p.tables.payments.find? (fun row => row.id = payment.id) = some row ∧
        isStorable p.tables (payment.overwrite context.clock.store row) ∧
        saved.row = payment.overwrite context.clock.store row ∧
        p' = { p with tables := { p.tables with
          payments := writeTo context.clock.store (some payment) p.tables.payments } } := by
  rw [save, returns_bind_storeTime]
  simp only [returns_bind, Table.returns_update calm, returns_found,
    PaymentRow.payment?_eq_some_iff]
  constructor
  · rintro ⟨_, _, ⟨row, hrow, hfits, rfl, rfl⟩, hsaved, rfl⟩
    exact ⟨row, hrow, hfits, hsaved.symm, rfl⟩
  · rintro ⟨row, hrow, hfits, hsaved, rfl⟩
    exact ⟨_, _, ⟨row, hrow, hfits, rfl, rfl⟩, hsaved.symm, rfl⟩

end Payment
end Storefront
