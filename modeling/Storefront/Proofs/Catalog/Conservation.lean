import Storefront.Proofs.Catalog.Balance
import Storefront.Proofs.Session.Range

/-!
Conservation of stock. In every state of a run that sets no stock, what is in stock of a product and
what is sold of it in open items come to what was in stock at the beginning. Since that fits its
column, so does every stock that a cancellation restores.
-/

namespace Storefront

open Session

theorem Text.fitsSigned_of_le {bits : Nat} {n m : Int} (h : fitsSigned bits m) (natural : 0 ≤ n)
    (hle : n ≤ m) : fitsSigned bits n := by
  unfold fitsSigned at h ⊢
  rw [decide_eq_true_eq] at h ⊢
  have hbound : (0 : Int) ≤ twoTo (bits - 1) := Int.natCast_nonneg _
  omega

/-- A product can take back the units of an open item. -/
theorem Tables.Balanced.restock_fits {balances : List (ProductId × Int)} {t : Tables}
    {product : Product} {item : OrderItem}
    (limit : ∀ balance ∈ balances, Text.fitsSigned 32 balance.2)
    (coherent : t.Coherent) (h : t.Balanced balances) (stored : item.row ∈ t.orderItems)
    (cancellable : item.status.isCancellable) (hproduct : product ∈ t.products)
    (hid : product.id = item.productId) : Text.fitsSigned 32 (product.stock + item.quantity) := by
  have hbalance : (product.id, product.stock + ItemRow.openQuantity product.id t.orderItems) ∈
      balances := by
    rw [← h.balances_eq]
    exact List.mem_map_of_mem hproduct
  have hquantity := ItemRow.quantity_le_openQuantity coherent.items_positive stored
    (OrderItem.status_row_ne cancellable)
  have hpositive := coherent.items_positive item.row stored
  have hnatural := h.natural product hproduct
  change item.quantity ≤ ItemRow.openQuantity item.productId t.orderItems at hquantity
  change 0 < item.quantity at hpositive
  rw [hid] at hbalance
  apply Text.fitsSigned_of_le (limit _ hbalance) (by omega)
  exact Int.add_le_add_left hquantity product.stock

theorem Product.inRange_restock {context : Context} {p : Progress} {id : ProductId} {quantity : Int}
    (h : ∀ product, p.tables.products.find? (fun row => row.id = id) = some product →
      Text.fitsSigned 32 (product.stock + quantity)) :
    InRange (restock id quantity) context p := by
  unfold restock
  refine .reading_bind fun found middle hfind htables => ?_
  refine .reading_bind fun product after hfound htables' => ?_
  obtain ⟨hproduct, -⟩ := (Product.returns_find rfl).mp hfind
  obtain ⟨rfl, -⟩ := returns_found.mp hfound
  apply (inRange_recordStock (h product hproduct.symm)).bind
  intro _ _ _
  exact inRange_writing _

namespace Order

variable {context : Context} {p : Progress} {balances : List (ProductId × Int)}
  (limit : ∀ balance ∈ balances, Text.fitsSigned 32 balance.2)

include limit

theorem inRange_cancelOne {reason : String} {now : Instant} {item : OrderItem}
    (coherent : p.tables.Coherent) (balanced : p.tables.Balanced balances)
    (stored : item.row ∈ p.tables.orderItems) (cancellable : item.status.isCancellable) :
    InRange (cancelOne reason now item) context p := by
  unfold cancelOne
  apply (inRange_writing _).bind
  intro _ middle hsave
  apply Product.inRange_restock
  obtain ⟨saved, hsaved⟩ := returns_discard.mp hsave.without_fault
  obtain ⟨row, -, -, -, hmiddle⟩ := (OrderItem.returns_save rfl).mp hsaved
  have hproducts : middle.tables.products = p.tables.products :=
    congrArg (fun after => after.tables.products) hmiddle
  intro product hfound
  rw [hproducts] at hfound
  obtain ⟨hproduct, hid⟩ := mem_of_find?_key hfound
  exact balanced.restock_fits limit coherent stored cancellable hproduct hid

/-- Cancelling items one after the other stays in range, since each leaves the balances as they
are. -/
theorem inRange_forM {reason : String} {items : List OrderItem} (coherent : p.tables.Coherent)
    (balanced : p.tables.Balanced balances) (hopen : OrderItem.OpenIn p.tables items) :
    InRange (forM items (cancelOne reason context.clock.wall)) context p := by
  induction items generalizing p with
  | nil => exact inRange_writing (pure PUnit.unit)
  | cons item rest ih =>
    have hstored := hopen.stored item List.mem_cons_self
    have hcancellable := hopen.cancellable item List.mem_cons_self
    have hfirst := OrderItem.openIn_singleton hstored hcancellable
    apply (inRange_cancelOne limit coherent balanced hstored hcancellable).bind
    intro _ middle hone
    have hwithdrawn := withdrawn_of_returns_cancelOne rfl hone.without_fault
    exact ih (coherent.withdrawn hwithdrawn) (balanced.withdrawOne coherent hfirst hwithdrawn)
      (hopen.tail hwithdrawn)

theorem inRange_cancelOpenItems {id : OrderId} {reason : String} (coherent : p.tables.Coherent)
    (balanced : p.tables.Balanced balances) :
    InRange (cancelOpenItems id reason context.clock.wall) context p := by
  unfold cancelOpenItems
  refine .reading_bind fun items middle hlist htables => ?_
  obtain ⟨hlisted, -⟩ := (OrderItem.returns_listFor rfl).mp hlist
  have hopen := hlisted.openIn coherent.items_key
  rw [Progress.tables_calm, ← htables] at hopen
  rw [← htables] at coherent balanced
  exact inRange_forM limit coherent balanced hopen

theorem inRange_withdrawItem (user : UserId) (id : OrderId) (itemId : ItemId) (reason : String)
    (coherent : p.tables.Coherent) (balanced : p.tables.Balanced balances) :
    InRange (withdrawItem user id itemId reason) context p := by
  unfold withdrawItem
  apply InRange.transaction
  refine .reading_bind fun _ p₁ _ h₁ => .reading_bind fun order p₂ _ h₂ => ?_
  refine .reading_bind fun _ p₃ _ h₃ => .reading_bind fun _ p₄ _ h₄ => ?_
  refine .reading_bind fun found p₅ hfind h₅ => .reading_bind fun item p₆ hfound h₆ => ?_
  refine .reading_bind fun _ p₇ hrequire h₇ => .reading_bind fun now p₈ _ h₈ => ?_
  obtain ⟨hitem, -⟩ := (OrderItem.returns_find rfl).mp hfind
  obtain ⟨rfl, -⟩ := returns_found.mp hfound
  obtain ⟨hcancellable, -⟩ := returns_require.mp hrequire
  have hbefore : p₄.tables = p.tables := h₄.trans (h₃.trans (h₂.trans h₁))
  have hafter : p₈.tables = p.tables := h₈.trans (h₇.trans (h₆.trans (h₅.trans hbefore)))
  have hstored : item.row ∈ p.tables.orderItems := by
    rw [← hbefore]
    exact List.mem_of_find?_eq_some hitem
  rw [← hafter] at coherent balanced hstored
  exact (inRange_cancelOne limit coherent balanced hstored hcancellable).bind fun _ _ _ =>
    inRange_writing _

theorem inRange_cancelPending (user : UserId) (id : OrderId) (coherent : p.tables.Coherent)
    (balanced : p.tables.Balanced balances) : InRange (cancelPending user id) context p := by
  unfold cancelPending
  apply InRange.transaction
  refine .reading_bind fun _ p₁ _ h₁ => .reading_bind fun order p₂ _ h₂ => ?_
  refine .reading_bind fun _ p₃ _ h₃ => .reading_bind fun _ p₄ _ h₄ => ?_
  refine .reading_bind fun now p₅ htime h₅ => ?_
  obtain ⟨rfl, -⟩ := returns_wallTime.mp htime
  rw [← h₁, ← h₂, ← h₃, ← h₄, ← h₅] at coherent balanced
  exact (inRange_cancelOpenItems limit coherent balanced).bind fun _ _ _ => inRange_writing _

theorem inRange_move (id : OrderId) (next : OrderStatus) (coherent : p.tables.Coherent)
    (balanced : p.tables.Balanced balances) : InRange (move id next) context p := by
  unfold move
  apply InRange.transaction
  refine .reading_bind fun _ p₁ _ h₁ => .reading_bind fun order p₂ _ h₂ => ?_
  refine .reading_bind fun _ p₃ _ h₃ => .reading_bind fun now p₄ htime h₄ => ?_
  obtain ⟨rfl, -⟩ := returns_wallTime.mp htime
  rw [← h₁, ← h₂, ← h₃, ← h₄] at coherent balanced
  refine InRange.bind ?_ fun _ _ _ => inRange_writing _
  unfold emptyOnCancel
  split
  · exact (inRange_cancelOpenItems limit coherent balanced).bind fun _ _ _ => inRange_writing _
  · exact inRange_writing _

end Order

theorem Payment.inRange_refundForOrder {context : Context} {p : Progress} (id : OrderId) :
    InRange (refundForOrder id) context p :=
  (inRange_writing (giveBack id)).announced .paymentUpdated fun refunded => refunded

section Operations

variable {context : Context} {p : Progress} {balances : List (ProductId × Int)}
  (limit : ∀ balance ∈ balances, Text.fitsSigned 32 balance.2)

include limit

theorem Order.inRange_cancel (user : UserId) (id : OrderId) (coherent : p.tables.Coherent)
    (balanced : p.tables.Balanced balances) : InRange (cancel user id) context p := by
  apply (inRange_cancelPending limit user id coherent balanced).bind
  intro cancelled _ _
  apply (inRange_announce (.orderCancelled cancelled.1)).bind
  intro _ _ _
  split
  · apply (inRange_attempt (Payment.inRange_refundForOrder id)).bind
    intro outcome _ _
    cases outcome with
    | ok payment => exact inRange_writing _
    | error cause =>
      exact (inRange_announce (.refundFailed id cause)).bind fun _ _ _ => inRange_writing _
  · exact inRange_writing _

/-- No operation puts more into stock than was there at the beginning. -/
theorem Operation.inRange_perform (operation : Operation) (coherent : p.tables.Coherent)
    (balanced : p.tables.Balanced balances) : InRange operation.perform context p := by
  cases operation with
  | placeFromCart user address method =>
    exact ((inRange_writing _).bind fun order _ _ =>
      (inRange_announce (.orderPlaced order)).bind fun _ _ _ => inRange_writing _).map _
  | placeDirect user address method items =>
    exact ((inRange_writing _).bind fun _ _ _ => (inRange_writing _).bind fun order _ _ =>
      (inRange_announce (.orderPlaced order)).bind fun _ _ _ => inRange_writing _).map _
  | cancelItem user order item reason =>
    exact ((Order.inRange_withdrawItem limit user order item reason coherent balanced).announced
      (fun answer => .orderItemCancelled answer item) fun answer => answer).map _
  | cancelOrder user order => exact (Order.inRange_cancel limit user order coherent balanced).map _
  | updateOrderStatus order status =>
    exact ((Order.inRange_move limit order status coherent balanced).announced
      (fun moved => .orderStatusChanged moved.1 moved.2) fun moved => moved.1).map _
  | createIntent user order method =>
    exact ((inRange_writing read).bind fun context _ _ =>
      (inRange_writing (Payment.openIntent user order method context.currency)).announced
        (fun intent => .paymentUpdated intent.payment) fun intent => intent).map _
  | confirmPayment reference status =>
    refine InRange.map ((inRange_writing (Payment.applyCallback reference status)).bind
      fun called _ _ => ?_) _
    split
    · exact (inRange_announce (.paymentUpdated called.1)).bind fun _ _ _ => inRange_writing _
    · exact inRange_writing _
  | refundPayment order => exact (Payment.inRange_refundForOrder order).map _
  | _ => exact (inRange_writing _).map _

end Operations
variable {currency : String} {balances : List (ProductId × Int)}

/-- The step sets no stock. -/
def Step.KeepsStock (step : Step) : Prop :=
  ∀ id stock isActive, step.operation? ≠ some (.reviseProduct id (some stock) isActive)

theorem Step.balanced {step : Step} {store : Store} (served : step.IsServed)
    (keeps : step.KeepsStock) (coherent : store.tables.Coherent)
    (balanced : store.tables.Balanced balances) :
    (step.run currency store).store.tables.Balanced balances := by
  apply step.keeps currency served balanced
  intro operation events t' hop heffect
  refine balanced.effect coherent (fun id stock isActive hset => ?_) heffect
  rw [hset] at hop
  exact keeps id stock isActive hop

/-- No stock that a step puts back is too large for its column. -/
theorem Step.overflowed_eq_false {step : Step} {store : Store} (served : step.IsServed)
    (limit : ∀ balance ∈ balances, Text.fitsSigned 32 balance.2) (coherent : store.tables.Coherent)
    (balanced : store.tables.Balanced balances) :
    (step.run currency store).overflowed = false := by
  cases hop : step.operation? with
  | none => exact (run_of_no_operation currency store hop served).2.2
  | some operation =>
    rw [(run_of_operation currency store hop).2.2.1]
    exact operation.inRange_perform limit coherent balanced

theorem balanced_storeAfter (currency : String) {steps : List Step} {start : Store}
    (served : ∀ step ∈ steps, step.IsServed) (keeps : ∀ step ∈ steps, step.KeepsStock)
    (coherent : start.tables.Coherent) (balanced : start.tables.Balanced balances) :
    (storeAfter currency steps start).tables.Coherent ∧
      (storeAfter currency steps start).tables.Balanced balances := by
  refine storeAfter_induction
    (I := fun store => store.tables.Coherent ∧ store.tables.Balanced balances)
    ⟨coherent, balanced⟩ ?_
  intro step hstep store ⟨hcoherent, hbalanced⟩
  exact ⟨Step.coherent currency (served step hstep) hcoherent,
    Step.balanced (served step hstep) (keeps step hstep) hcoherent hbalanced⟩

/-- Without orders the balance of a product is its stock. -/
theorem Tables.Constrained.balanced {t : Tables} (h : t.Constrained) (orders : t.orders = []) :
    t.orderItems = [] ∧ t.Balanced (t.products.map fun product => (product.id, product.stock)) := by
  have hitems := h.orderItems_eq_nil orders
  refine ⟨hitems, h.products_key, ?_, h.stock_natural⟩
  refine List.map_congr_left fun product _ => Prod.ext rfl ?_
  rw [hitems]
  exact Int.add_zero _

/-- In every state of a run that began without orders and sets no stock, the stock of each product
and what is sold of it in items that are not cancelled come to its first stock; no stock is
negative, no more is sold than there was, and no restored stock is too large for its column. -/
theorem stock_conserved (currency : String) (steps : List Step) (start : Store)
    (constrained : start.tables.Constrained) (orders : start.tables.orders = [])
    (served : ∀ step ∈ steps, step.IsServed) (keeps : ∀ step ∈ steps, step.KeepsStock) :
    (storeAfter currency steps start).tables.balances =
        start.tables.products.map (fun product => (product.id, product.stock)) ∧
      (∀ product ∈ (storeAfter currency steps start).tables.products, 0 ≤ product.stock) ∧
      (∀ product ∈ start.tables.products,
        ItemRow.openQuantity product.id (storeAfter currency steps start).tables.orderItems ≤
          product.stock) ∧
      ∀ outcome ∈ run currency steps start, outcome.overflowed = false := by
  obtain ⟨hitems, hbalanced⟩ := constrained.balanced orders
  have hcoherent := Tables.Coherent.of_empty orders hitems
  obtain ⟨-, hafter⟩ := balanced_storeAfter currency served keeps hcoherent hbalanced
  refine ⟨hafter.balances_eq, hafter.natural, ?_, ?_⟩
  · intro product hproduct
    have hbalance : (product.id, product.stock) ∈
        (storeAfter currency steps start).tables.balances := by
      rw [hafter.balances_eq]
      exact List.mem_map_of_mem hproduct
    obtain ⟨row, hrow, hsame⟩ := List.mem_map.mp hbalance
    obtain ⟨hid, hstock⟩ := Prod.mk.inj hsame
    have hnatural := hafter.natural row hrow
    rw [hid] at hstock
    dsimp only at hstock
    omega
  · intro outcome houtcome
    obtain ⟨before, step, after, rfl, rfl⟩ := mem_run.mp houtcome
    have hlimit : ∀ balance ∈ start.tables.products.map fun product => (product.id, product.stock),
        Text.fitsSigned 32 balance.2 := by
      intro balance hbalance
      obtain ⟨product, hproduct, rfl⟩ := List.mem_map.mp hbalance
      exact constrained.stock_fits product hproduct
    obtain ⟨hcoherent', hbalanced'⟩ := balanced_storeAfter currency
      (fun step hstep => served step (List.mem_append_left _ hstep))
      (fun step hstep => keeps step (List.mem_append_left _ hstep)) hcoherent hbalanced
    exact Step.overflowed_eq_false (served step (List.mem_append_right _ List.mem_cons_self)) hlimit
      hcoherent' hbalanced'

theorem Store.constrained_stocked : Store.stocked.tables.Constrained := by
  constructor <;> simp +decide

/-- A purchase of two products, a cancellation of which the second restock fails, and the
cancellation of one item. -/
def Step.halfReturned : List Step :=
  [ofCall (.placeDirect 7 6 .cod [⟨3, 2⟩, ⟨4, 1⟩]),
    { ofCall (.cancelOrder 7 1) with fault := some ⟨.update, .products, 2⟩ },
    ofCall (.cancelItem 7 1 1 "Too many")]

theorem stock_halfReturned :
    (storeAfter "INR" Step.halfReturned .stocked).tables.products.map (·.stock) = [5, 1] ∧
      (storeAfter "INR" Step.halfReturned .stocked).tables.balances = [(3, 5), (4, 2)] ∧
      ∀ outcome ∈ run "INR" Step.halfReturned .stocked, outcome.overflowed = false := by
  have hserved : ∀ step ∈ Step.halfReturned, step.IsServed := by
    simp [Step.halfReturned, Step.IsServed, Step.ofCall]
  have hkeeps : ∀ step ∈ Step.halfReturned, step.KeepsStock := by
    simp [Step.halfReturned, Step.KeepsStock, Step.ofCall, Step.operation?]
  obtain ⟨hbalances, -, -, hrange⟩ :=
    stock_conserved "INR" Step.halfReturned .stocked Store.constrained_stocked rfl hserved hkeeps
  exact ⟨by decide +kernel, hbalances, hrange⟩

end Storefront
