import Mathlib.Data.Set.List
import Storefront.Proofs.Cart.Operations
import Storefront.Proofs.Order.Checkout
import Storefront.Proofs.Order.Reading
import Storefront.Proofs.Service.Steps
import Storefront.Proofs.Session.Atomicity
import Storefront.Proofs.Store.Constraints

/-!
What is left behind by a step that fails. Almost every operation does everything or nothing. Two of
them read once more after their change is committed, and a failure of that reading leaves the
change.
-/

namespace Storefront

open Session

variable {context : Context} {p p' : Progress}

namespace Order

theorem atomic_checkOut (user : UserId) (address : AddressId) (method : PaymentMethod)
    (source : Source) : Atomic (checkOut user address method source) :=
  atomic_transaction rfl

theorem atomic_cancelItem (user : UserId) (id : OrderId) (item : ItemId) (reason : String) :
    Atomic (cancelItem user id item reason) :=
  Atomic.bind_total (atomic_transaction rfl) fun order =>
    total_announced (.orderItemCancelled order item) order

theorem total_refundCancelled (id : OrderId) (order : Order) :
    Total (refundCancelled id order) := by
  apply (total_attempt (Payment.refundForOrder id)).bind
  intro outcome
  cases outcome with
  | ok payment => exact total_pure _
  | error cause => exact total_announced (.refundFailed id cause) order

/-- What follows once a cancellation is committed never fails. -/
theorem total_afterCancellation (id : OrderId) (cancelled : Order × Bool) :
    Total (announce (.orderCancelled cancelled.1) >>= fun _ =>
      if cancelled.2 then refundCancelled id cancelled.1 else pure cancelled.1) :=
  (total_announce (.orderCancelled cancelled.1)).bind fun _ =>
    total_ite (total_refundCancelled id cancelled.1) (total_pure cancelled.1)

theorem atomic_cancel (user : UserId) (id : OrderId) : Atomic (cancel user id) :=
  Atomic.bind_total (atomic_transaction rfl) (total_afterCancellation id)

theorem atomic_updateStatus (id : OrderId) (next : OrderStatus) : Atomic (updateStatus id next) :=
  Atomic.bind_total (atomic_transaction rfl) fun moved =>
    total_announced (.orderStatusChanged moved.1 moved.2) moved.1

end Order

namespace Payment

theorem atomic_createIntent (user : UserId) (id : OrderId) (method : PaymentMethod) :
    Atomic (createIntent user id method) :=
  Atomic.reading_bind fun _ =>
    Atomic.bind_total (atomic_transaction rfl) fun intent =>
      total_announced (.paymentUpdated intent.payment) intent

/-- What follows once a callback is applied never fails. -/
theorem total_afterCallback (called : Payment × Bool) :
    Total (if called.2 then announce (.paymentUpdated called.1) >>= fun _ => pure called.1
      else pure called.1) :=
  total_ite (total_announced (.paymentUpdated called.1) called.1) (total_pure called.1)

theorem atomic_confirm (reference reported : String) : Atomic (confirm reference reported) :=
  Atomic.bind_total (atomic_transaction rfl) total_afterCallback

theorem atomic_refundForOrder (id : OrderId) : Atomic (refundForOrder id) :=
  Atomic.bind_total (atomic_transaction rfl) fun refunded =>
    total_announced (.paymentUpdated refunded) refunded

end Payment

theorem Table.atomic_insert {α : Type} (table : Table α) (admitted : Tables → Bool)
    (rows : List α) (take : Sequences → Sequences) : Atomic (table.insert admitted rows take) :=
  Atomic.reading_bind fun _ => Atomic.reading_bind fun tables =>
    (atomic_reading (Session.constraint (admitted tables))).bind_total fun _ =>
      (total_modifySequences take).bind fun _ => total_modifyTables _

namespace Cart

theorem atomic_replace (user : UserId) (requests : List LineRequest) :
    Atomic (replace user requests) :=
  Atomic.reading_bind fun _ => atomic_transaction rfl

theorem atomic_create (user : UserId) : Atomic (create user) :=
  Atomic.reading_bind fun _ => Atomic.reading_bind fun _ =>
    (Table.atomic_insert _ _ _ _).bind_total fun _ => total_pure _

theorem atomic_findOrCreate (user : UserId) : Atomic (findOrCreate user) := by
  apply Atomic.reading_bind
  intro found
  cases found with
  | none => exact atomic_create user
  | some cart => exact atomic_reading (pure cart)

end Cart

theorem Product.atomic_revise (id : ProductId) (stock : Option Int) (isActive : Option Bool) :
    Atomic (revise id stock isActive) :=
  Atomic.reading_bind fun _ => atomic_transaction rfl

/-- Who checks out, to which address, by which method and over which lines. -/
def Operation.checkout? : Operation → Option (UserId × AddressId × PaymentMethod × Order.Source)
  | .placeFromCart user address method => some (user, address, method, .cart)
  | .placeDirect user address method items => some (user, address, method, .items items)
  | _ => none

theorem Operation.atomic_perform (operation : Operation) (hcheckout : operation.checkout? = none)
    (hcart : ∀ user, operation ≠ .getCart user) : Atomic operation.perform := by
  cases operation with
  | placeFromCart user address method => simp [checkout?] at hcheckout
  | placeDirect user address method items => simp [checkout?] at hcheckout
  | cancelItem user order item reason =>
    exact (Order.atomic_cancelItem user order item reason).map _
  | cancelOrder user order => exact (Order.atomic_cancel user order).map _
  | updateOrderStatus order status => exact (Order.atomic_updateStatus order status).map _
  | createIntent user order method => exact (Payment.atomic_createIntent user order method).map _
  | confirmPayment reference status => exact (Payment.atomic_confirm reference status).map _
  | refundPayment order => exact (Payment.atomic_refundForOrder order).map _
  | getCart user => exact absurd rfl (hcart user)
  | replaceCart user items => exact (Cart.atomic_replace user items).map _
  | reviseProduct product stock isActive =>
    exact (Product.atomic_revise product stock isActive).map _
  | _ => exact (atomic_reading _).map _

/-- Whether a checkout names any line; one from a cart has those of the cart. -/
def Operation.hasLines : Operation → Bool
  | .placeDirect _ _ _ items => !items.isEmpty
  | _ => true

theorem Operation.exec_checkout {operation : Operation} {user : UserId} {address : AddressId}
    {method : PaymentMethod} {source : Order.Source}
    (h : operation.checkout? = some (user, address, method, source)) (context : Context)
    (p : Progress) :
    operation.perform.exec context p =
      if operation.hasLines then
        (Reply.orderDetails <$> Order.place user address method source).exec context p
      else (.error (.invalidInput "Order has no items"), p) := by
  cases operation with
  | placeFromCart =>
    simp only [checkout?, Option.some.injEq, Prod.mk.injEq] at h
    obtain ⟨rfl, rfl, rfl, rfl⟩ := h
    rfl
  | placeDirect user address method items =>
    simp only [checkout?, Option.some.injEq, Prod.mk.injEq] at h
    obtain ⟨rfl, rfl, rfl, rfl⟩ := h
    cases items with
    | nil => rfl
    | cons line rest => rfl
  | _ => simp [checkout?] at h

namespace Order

variable {user : UserId} {address : AddressId} {method : PaymentMethod} {source : Source}

/-- A checkout that is committed is announced and read back. -/
theorem exec_place {order : Order} {after : Progress}
    (h : Returns (checkOut user address method source) context p order after) :
    (place user address method source).exec context p =
      (details order.id).exec context
        { after with events := after.events ++ [.orderPlaced order] } := by
  unfold place
  rw [exec_bind, h]
  rfl

/-- Reading an order back changes neither the tables nor the events. -/
theorem details_frame (id : OrderId) (context : Context) (p : Progress) :
    ((details id).exec context p).2.tables = p.tables ∧
      ((details id).exec context p).2.events = p.events :=
  ⟨tables_exec (details id) context p, events_exec (details id) context p⟩

/-- An order is read back if its items stand for items. -/
theorem exists_details {order : Order} (calm : p.fault = none)
    (stored : p.tables.orders.find? (fun row => row.id = order.id) = some order.row)
    (readable : ∀ row ∈ p.tables.orderItems, row.orderId = order.id →
      ∃ item : OrderItem, row = item.row) :
    ∃ found, Returns (details order.id) context p found p := by
  have hitems : ∃ items, OrderItem.ListedIn order.id items p.tables.orderItems := by
    have hrange : sortBy (fun a b => a.id ≤ b.id)
        (p.tables.orderItems.filter fun row => row.orderId = order.id) ∈
          Set.range (List.map OrderItem.row) := by
      rw [Set.range_list_map]
      intro row hrow
      rw [mem_sortBy, List.mem_filter, decide_eq_true_eq] at hrow
      obtain ⟨item, hitem⟩ := readable row hrow.1 hrow.2
      exact ⟨item, hitem.symm⟩
    obtain ⟨items, hitems⟩ := hrange
    exact ⟨items, hitems.symm⟩
  obtain ⟨items, hlisted⟩ := hitems
  let copy := order.shippingAddressId.bind fun id =>
    p.tables.orderAddresses.find? fun copy => copy.id = id
  exact ⟨⟨order, items, copy⟩, (returns_details calm).mpr ⟨rfl, ⟨stored, hlisted, rfl⟩, rfl⟩⟩

/-- An order just placed can be read back where every older item belongs to an order. -/
theorem details_of_placed {clock : Clock} {store : Store} {address : Address}
    {cart : Option CartId} {requests : List LineRequest} {lines : List PricedLine} {order : Order}
    {addressId : AddressId}
    (h : Placed clock user addressId method source store address cart requests lines order p.tables)
    (references : ∀ item ∈ store.tables.orderItems, ∃ other ∈ store.tables.orders,
      other.id = item.orderId) (calm : p.fault = none) :
    ∃ found, Returns (details order.id) context p found p := by
  obtain ⟨products, -, htables⟩ := h.changed
  refine exists_details calm ?_ ?_
  · rw [htables, List.find?_append, find?_key_eq_none.mpr h.order_fresh]
    simp [row]
  · intro row hrow hid
    rw [htables, List.mem_append] at hrow
    rcases hrow with hold | hnew
    · obtain ⟨other, hother, hsame⟩ := references row hold
      exact absurd (hsame.trans hid) (h.order_fresh other hother)
    · obtain ⟨item, -, hitem⟩ := List.mem_map.mp hnew
      exact ⟨item, hitem.symm⟩

end Order

/-- A checkout was committed, and could not be read back. -/
structure Step.ReloadFailed (currency : String) (step : Step) (store : Store) (order : Order)
    (after : Progress) : Prop where
  committed : ∃ user address method source,
    step.operation?.bind Operation.checkout? = some (user, address, method, source) ∧
      Returns (Order.checkOut user address method source) (step.context currency)
        (step.start store) order after
  reload : ∃ cause last, (Order.details order.id).exec (step.context currency)
    { after with events := [.orderPlaced order] } = (.error cause, last)
  events_eq : (step.run currency store).events = [.orderPlaced order]
  tables_eq : (step.run currency store).store.tables = after.tables
  calm_tables_eq : (step.calm.run currency store).store.tables = after.tables
  calm_events_eq : (step.calm.run currency store).events = [.orderPlaced order]
  calm_succeeds : store.tables.Constrained → (step.calm.run currency store).answer.isError = false

/-- A user's first cart was created, and its lines could not be read. -/
structure Step.CartLeft (currency : String) (step : Step) (store : Store) (user : UserId)
    (cart : Cart) : Prop where
  asked : step.operation? = some (.getCart user)
  missing : ∀ row ∈ store.tables.carts, row.userId ≠ user
  owner : cart.userId = user
  fresh : ∀ row ∈ store.tables.carts, row.id ≠ cart.id
  reading : ∃ created cause last, created.tables = (step.run currency store).store.tables ∧
    (Cart.lines cart.id).exec (step.context currency) created = (.error cause, last)
  events_eq : (step.run currency store).events = []
  tables_eq : (step.run currency store).store.tables =
    { store.tables with carts := store.tables.carts ++ [cart] }
  empty : store.tables.Constrained → ∀ line ∈ store.tables.cartItems, line.cartId ≠ cart.id

namespace Step

variable {currency : String} {step : Step} {store : Store}

/-- What a checkout that is committed comes to, whether or not it can be read back. -/
theorem run_of_committed {operation : Operation} {user : UserId} {address : AddressId}
    {method : PaymentMethod} {source : Order.Source} {order : Order} {after : Progress}
    (hop : step.operation? = some operation)
    (hcheckout : operation.checkout? = some (user, address, method, source))
    (hlines : operation.hasLines)
    (hcommitted : Returns (Order.checkOut user address method source) (step.context currency)
      (step.start store) order after) :
    (step.run currency store).store.tables = after.tables ∧
      (step.run currency store).events = [.orderPlaced order] ∧
      ((step.run currency store).answer.isError ↔ ∃ cause last,
        (Order.details order.id).exec (step.context currency)
          { after with events := [.orderPlaced order] } = (.error cause, last)) := by
  have hevents : after.events = [] := hcommitted.events_eq
  have hexec := Operation.exec_checkout hcheckout (step.context currency) (step.start store)
  rw [if_pos hlines, exec_map, Order.exec_place hcommitted, hevents, List.nil_append] at hexec
  obtain ⟨htables, hannounced⟩ := Order.details_frame order.id (step.context currency)
    { after with events := [.orderPlaced order] }
  obtain ⟨hstore, hstepEvents, -, herror⟩ := run_of_operation currency store hop
  rcases hdetails : (Order.details order.id).exec (step.context currency)
    { after with events := [.orderPlaced order] } with ⟨cause | found, last⟩
  · rw [hdetails] at hexec htables hannounced
    rw [hstore, hstepEvents, herror, hexec]
    exact ⟨htables, hannounced, ⟨fun _ => ⟨cause, last, rfl⟩, fun _ => ⟨cause, rfl⟩⟩⟩
  · rw [hdetails] at hexec htables hannounced
    rw [hstore, hstepEvents, herror, hexec]
    exact ⟨htables, hannounced, by simp⟩

/-- A step that does nothing when it fails. -/
theorem unchanged_of_atomic {operation : Operation} (hop : step.operation? = some operation)
    (hatomic : Atomic operation.perform) (herror : (step.run currency store).answer.isError) :
    (step.run currency store).store.tables = store.tables ∧
      (step.run currency store).events = [] := by
  obtain ⟨hstore, hevents, -, hanswer⟩ := run_of_operation currency store hop
  obtain ⟨cause, hcause⟩ := hanswer.mp herror
  rw [hstore, hevents]
  exact hatomic _ _ cause _ (Prod.ext hcause rfl)

theorem checkout_failed {operation : Operation} {user : UserId} {address : AddressId}
    {method : PaymentMethod} {source : Order.Source} (hop : step.operation? = some operation)
    (hcheckout : operation.checkout? = some (user, address, method, source))
    (herror : (step.run currency store).answer.isError) :
    ((step.run currency store).store.tables = store.tables ∧
        (step.run currency store).events = []) ∨
      ∃ order after, step.ReloadFailed currency store order after := by
  have hexec := Operation.exec_checkout hcheckout (step.context currency) (step.start store)
  obtain ⟨hstore, hevents, -, hanswer⟩ := run_of_operation currency store hop
  by_cases hlines : operation.hasLines
  · rw [if_pos hlines] at hexec
    rcases hout : (Order.checkOut user address method source).exec (step.context currency)
      (step.start store) with ⟨cause | order, after⟩
    · left
      rw [exec_map, Order.place, exec_bind, hout] at hexec
      rw [hstore, hevents, hexec]
      exact Order.atomic_checkOut user address method source _ _ cause after hout
    · right
      have hcommitted : Returns (Order.checkOut user address method source) (step.context currency)
        (step.start store) order after := hout
      obtain ⟨htables, hplaced, hreload⟩ := run_of_committed hop hcheckout hlines hcommitted
      have hcalm : Returns (Order.checkOut user address method source)
          (step.calm.context currency) (step.calm.start store) order after.calm :=
        hcommitted.without_fault
      have hsame : step.calm.operation? = some operation := hop
      obtain ⟨hcalmTables, hcalmPlaced, hcalmReload⟩ :=
        run_of_committed hsame hcheckout hlines hcalm
      refine ⟨order, after, ⟨user, address, method, source, ?_, hcommitted⟩, hreload.mp herror,
        hplaced, htables, hcalmTables, hcalmPlaced, ?_⟩
      · rw [hop]
        exact hcheckout
      · intro hconstrained
        rw [Bool.eq_false_iff]
        intro hfailed
        obtain ⟨cause, last, hreading⟩ := hcalmReload.mp hfailed
        obtain ⟨address', cart, requests, lines, hplacement⟩ := Order.placed_of_returns rfl hcalm
        have hread : ∃ found, Returns (Order.details order.id) (step.calm.context currency)
            { after.calm with events := [.orderPlaced order] } found
            { after.calm with events := [.orderPlaced order] } :=
          Order.details_of_placed hplacement hconstrained.item_order rfl
        obtain ⟨found, hfound⟩ := hread
        rw [Returns, hreading] at hfound
        simp at hfound
  · left
    rw [if_neg hlines] at hexec
    rw [hstore, hevents, hexec]
    exact ⟨rfl, rfl⟩

theorem getCart_failed {user : UserId} (hop : step.operation? = some (.getCart user))
    (herror : (step.run currency store).answer.isError) :
    ((step.run currency store).store.tables = store.tables ∧
        (step.run currency store).events = []) ∨
      ∃ cart, step.CartLeft currency store user cart := by
  obtain ⟨hstore, hevents, -, hanswer⟩ := run_of_operation currency store hop
  have hperform : (Operation.getCart user).perform = Reply.cart <$> Cart.fetchOrCreate user := rfl
  rw [hperform, exec_map, Cart.fetchOrCreate, exec_bind] at hstore hevents hanswer
  rcases hfirst : (Cart.findOrCreate user).exec (step.context currency) (step.start store) with
    ⟨cause | cart, created⟩
  · left
    rw [hfirst] at hstore hevents
    rw [hstore, hevents]
    exact Cart.atomic_findOrCreate user _ _ cause created hfirst
  · rw [hfirst] at hstore hevents hanswer
    dsimp only at hstore hevents hanswer
    rw [exec_bind] at hstore hevents hanswer
    rcases hreading : (Cart.lines cart.id).exec (step.context currency) created with
      ⟨cause | items, last⟩
    · have hframe := calm_exec (Cart.lines cart.id) (step.context currency) created
      rw [hreading] at hstore hevents hframe
      have htables : (step.run currency store).store.tables = created.tables :=
        (congrArg (·.tables) hstore).trans (congrArg (·.tables) hframe)
      have hcreated : Returns (Cart.findOrCreate user) (step.context currency) (step.start store)
        cart created := hfirst
      have hannounced : (step.run currency store).events = [] :=
        hevents.trans ((congrArg (·.events) hframe).trans hcreated.events_eq)
      rcases Cart.returns_findOrCreate rfl hcreated.without_fault with ⟨-, hsame⟩ | hnew
      · exact .inl ⟨htables.trans hsame, hannounced⟩
      · refine .inr ⟨cart, hop, find?_key_eq_none.mp hnew.missing, ?_, hnew.fresh,
          ⟨created, cause, last, htables.symm, hreading⟩, hannounced,
            htables.trans hnew.changed, ?_⟩
        · rw [hnew.cart_eq]
        · intro hconstrained line hline heq
          obtain ⟨other, hother, hid⟩ := hconstrained.line_cart line hline
          exact hnew.fresh other hother (hid.trans heq)
    · rw [hreading] at hanswer
      obtain ⟨cause, hcause⟩ := hanswer.mp herror
      simp at hcause

/-- A step that fails has done nothing, but for a checkout that could not be read back and for a
cart that was created and could not be read. -/
theorem unchanged_of_isError (currency : String) (step : Step) (store : Store)
    (herror : (step.run currency store).answer.isError) :
    ((step.run currency store).store.tables = store.tables ∧
        (step.run currency store).events = []) ∨
      (∃ order after, step.ReloadFailed currency store order after) ∨
      ∃ user cart, step.CartLeft currency store user cart := by
  cases hop : step.operation? with
  | none =>
    left
    have hedit : ∀ edit, step.action ≠ .edit edit := by
      intro edit hedit
      rw [isError_edit currency store hedit] at herror
      exact absurd herror (by decide)
    obtain ⟨hstore, hevents, -⟩ := run_of_no_operation currency store hop hedit
    exact ⟨congrArg (·.tables) hstore, hevents⟩
  | some operation =>
    cases hcheckout : operation.checkout? with
    | some asked =>
      obtain ⟨user, address, method, source⟩ := asked
      rcases checkout_failed hop hcheckout herror with hnothing | hreload
      · exact .inl hnothing
      · exact .inr (.inl hreload)
    | none =>
      by_cases hcart : ∃ user, operation = .getCart user
      · obtain ⟨user, rfl⟩ := hcart
        rcases getCart_failed hop herror with hnothing | ⟨cart, hleft⟩
        · exact .inl hnothing
        · exact .inr (.inr ⟨user, cart, hleft⟩)
      · have hatomic : Atomic operation.perform :=
          operation.atomic_perform hcheckout fun user h => hcart ⟨user, h⟩
        exact .inl (unchanged_of_atomic hop hatomic herror)

/-- A user's first look at the cart, of which the lines cannot be read. -/
def firstLook : Step :=
  { ofCall (.getCart 7) with fault := some ⟨.select, .cartItems, 1⟩ }

theorem cartLeft_firstLook :
    (firstLook.run "INR" .empty).answer.isError ∧
      ∃ cart, firstLook.CartLeft "INR" .empty 7 cart := by
  have herror : (firstLook.run "INR" .empty).answer.isError := by decide
  refine ⟨herror, ?_⟩
  rcases unchanged_of_isError "INR" firstLook .empty herror with
    ⟨hnothing, -⟩ | ⟨order, after, hreload⟩ | ⟨user, cart, hleft⟩
  · exact absurd hnothing (by decide)
  · have hevents : (firstLook.run "INR" .empty).events = [] := by decide
    rw [hreload.events_eq] at hevents
    exact absurd hevents (by simp)
  · obtain rfl : 7 = user := by simpa [operation?, firstLook, ofCall] using hleft.asked
    exact ⟨cart, hleft⟩

end Step
end Storefront
