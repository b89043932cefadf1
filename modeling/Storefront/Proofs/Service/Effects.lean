import Mathlib.Data.List.Induction
import Storefront.Proofs.Service.Replies

/-!
What a step can do to the store: nothing at all, an edit, or one of the effects below, each of which
belongs to one operation and comes with the events that it announces.
-/

namespace Storefront

open Session

/-- The effects of operations on a store, with the events announced and the tables left behind. -/
inductive Operation.Effect (context : Context) (fault : Option Fault) (store : Store) :
    Operation → List Event → Tables → Prop
  | placed {operation : Operation} {user : UserId} {addressId : AddressId}
      {method : PaymentMethod} {source : Order.Source} {address : Address} {cart : Option CartId}
      {requests : List LineRequest} {lines : List PricedLine} {order : Order} {t' : Tables}
      (asked : operation.checkout? = some (user, addressId, method, source))
      (hasLines : operation.hasLines)
      (placed : Order.Placed context.clock user addressId method source store address cart requests
        lines order t') :
      Effect context fault store operation [.orderPlaced order] t'
  | itemCancelled {user : UserId} {id : OrderId} {itemId : ItemId} {reason : String}
      {order answer : Order} {item : OrderItem} {items : List OrderItem} {payment : Option Payment}
      {t' : Tables}
      (cancelled : Order.ItemCancelled context.clock user id itemId reason store.tables order item
        items payment t')
      (answered : answer = (order.lessItem items payment).1.stamp context.clock.store) :
      Effect context fault store (.cancelItem user id itemId reason)
        [.orderItemCancelled answer itemId] t'
  | orderCancelled {user : UserId} {id : OrderId} {order answer : Order} {items : List OrderItem}
      {payment : Option Payment} {t' : Tables}
      (cancelled : Order.CalledOff context.clock user id store.tables order items payment t')
      (answered : answer = (order.calledOff payment).1.stamp context.clock.store)
      (settled : order.refundDue payment = false) :
      Effect context fault store (.cancelOrder user id) [.orderCancelled answer] t'
  | orderRefunded {user : UserId} {id : OrderId} {order answer found : Order}
      {items : List OrderItem} {payment : Option Payment} {paid refunded : Payment}
      {stored : PaymentRow} {t' t'' : Tables}
      (cancelled : Order.CalledOff context.clock user id store.tables order items payment t')
      (answered : answer = (order.calledOff payment).1.stamp context.clock.store)
      (due : order.refundDue payment)
      (refund : Payment.Refunded context.clock id t' found paid stored t'')
      (written : refunded.row =
        Payment.overwrite { paid with status := .refunded } context.clock.store stored) :
      Effect context fault store (.cancelOrder user id)
        [.orderCancelled answer, .paymentUpdated refunded] t''
  | refundFailed {user : UserId} {id : OrderId} {order answer : Order} {items : List OrderItem}
      {payment : Option Payment} {cause : Error} {t' : Tables}
      (cancelled : Order.CalledOff context.clock user id store.tables order items payment t')
      (answered : answer = (order.calledOff payment).1.stamp context.clock.store)
      (due : order.refundDue payment)
      (failed : ∃ p p', p.tables = t' ∧ (fault = none → p.fault = none) ∧
        (Payment.refundForOrder id).exec context p = (.error cause, p')) :
      Effect context fault store (.cancelOrder user id)
        [.orderCancelled answer, .refundFailed id cause] t'
  | statusChanged {id : OrderId} {next : OrderStatus} {order answer : Order}
      {items : List OrderItem} {payment : Option Payment} {t' : Tables}
      (moved : Order.Moved context.clock id next store.tables order items payment t')
      (answered : answer =
        (order.moved next context.clock.wall payment).1.stamp context.clock.store) :
      Effect context fault store (.updateOrderStatus id next)
        [.orderStatusChanged answer order.status] t'
  | intentCreated {user : UserId} {id : OrderId} {method : PaymentMethod} {order : Order}
      {payment : Payment} {t' : Tables}
      (opened : Payment.Opened context.clock context.currency user id method
        store.sequences.payment store.tables order payment t') :
      Effect context fault store (.createIntent user id method) [.paymentUpdated payment] t'
  | paymentConfirmed {reference reported : String} {order : Order} {found payment : Payment}
      {confirmation : Payment.Confirmation} {t' : Tables}
      (called : Payment.CalledBack context.clock reference reported store.tables order found
        payment confirmation t')
      (changes : confirmation ≠ .alreadyPaid) :
      Effect context fault store (.confirmPayment reference reported)
        [.paymentUpdated (payment.answered confirmation context.clock)] t'
  | refunded {id : OrderId} {order : Order} {payment refunded : Payment} {stored : PaymentRow}
      {t' : Tables}
      (refund : Payment.Refunded context.clock id store.tables order payment stored t')
      (written : refunded.row =
        Payment.overwrite { payment with status := .refunded } context.clock.store stored) :
      Effect context fault store (.refundPayment id) [.paymentUpdated refunded] t'
  | cartCreated {user : UserId} {cart : Cart} {t' : Tables}
      (created : Cart.Created context.clock user store.sequences.cart store.tables cart t') :
      Effect context fault store (.getCart user) [] t'
  | cartReplaced {user : UserId} {items : List LineRequest} {answer : FilledCart} {t' : Tables}
      (untouched : Cart.Untouched store.tables t')
      (refilled : Cart.Refilled context.clock user store.sequences.cart store.tables answer t') :
      Effect context fault store (.replaceCart user items) [] t'
  | productRevised {id : ProductId} {stock : Option Int} {isActive : Option Bool}
      {product : Product} {t' : Tables}
      (found : store.tables.products.find? (fun row => row.id = id) = some product)
      (natural : 0 ≤ stock.getD product.stock)
      (changed : t' = { store.tables with
        products := Product.writeTo { product with
          stock := stock.getD product.stock
          isActive := isActive.getD product.isActive } context.clock.store
            store.tables.products }) :
      Effect context fault store (.reviseProduct id stock isActive) [] t'

variable {context : Context} {p p' : Progress}

/-- The operation did nothing, or it had one of its effects. -/
def Operation.Does (operation : Operation) (context : Context) (p p' : Progress) : Prop :=
  (p'.tables = p.tables ∧ p'.events = p.events) ∨
    ∃ events, Operation.Effect context p.fault p.store operation events p'.tables ∧
      p'.events = p.events ++ events

namespace Operation

theorem does_of_atomic {operation : Operation} (hatomic : Atomic operation.perform)
    (hreturns : ∀ reply p', Returns operation.perform context p reply p' →
      operation.Does context p p') :
    operation.Does context p (operation.perform.exec context p).2 := by
  rcases hexec : operation.perform.exec context p with ⟨cause | reply, after⟩
  · exact .inl (hatomic context p cause after hexec)
  · exact hreturns reply after hexec

theorem does_of_reading {α : Type} {operation : Operation} {f : α → Reply} {session : Session α}
    (h : operation.perform = f <$> session) [Within .reading session] [Within .restocking session] :
    operation.Does context p (operation.perform.exec context p).2 := by
  rw [h, exec_map_snd]
  exact .inl ⟨tables_exec session context p, events_exec session context p⟩

theorem does_cancelItem (user : UserId) (id : OrderId) (itemId : ItemId) (reason : String) :
    (Operation.cancelItem user id itemId reason).Does context p
      ((Operation.cancelItem user id itemId reason).perform.exec context p).2 := by
  apply does_of_atomic ((Order.atomic_cancelItem user id itemId reason).map _)
  intro reply p' h
  obtain ⟨answer, hanswer, rfl⟩ := returns_map.mp h
  obtain ⟨order, item, items, payment, hcancelled, hanswered, hannounced⟩ :=
    Order.itemCancelled_of_returns_cancelItem hanswer
  exact .inr ⟨_, .itemCancelled hcancelled hanswered, hannounced⟩

theorem does_updateOrderStatus (id : OrderId) (next : OrderStatus) :
    (Operation.updateOrderStatus id next).Does context p
      ((Operation.updateOrderStatus id next).perform.exec context p).2 := by
  apply does_of_atomic ((Order.atomic_updateStatus id next).map _)
  intro reply p' h
  obtain ⟨answer, hanswer, rfl⟩ := returns_map.mp h
  obtain ⟨order, items, payment, hmoved, hanswered, hannounced⟩ :=
    Order.moved_of_returns_updateStatus hanswer
  exact .inr ⟨_, .statusChanged hmoved hanswered, hannounced⟩

theorem does_createIntent (user : UserId) (id : OrderId) (method : PaymentMethod) :
    (Operation.createIntent user id method).Does context p
      ((Operation.createIntent user id method).perform.exec context p).2 := by
  apply does_of_atomic ((Payment.atomic_createIntent user id method).map _)
  intro reply p' h
  obtain ⟨intent, hanswer, rfl⟩ := returns_map.mp h
  obtain ⟨order, hopened, -, hannounced⟩ := Payment.opened_of_returns_createIntent hanswer
  exact .inr ⟨_, .intentCreated hopened, hannounced⟩

theorem does_confirmPayment (reference reported : String) :
    (Operation.confirmPayment reference reported).Does context p
      ((Operation.confirmPayment reference reported).perform.exec context p).2 := by
  apply does_of_atomic ((Payment.atomic_confirm reference reported).map _)
  intro reply p' h
  obtain ⟨answer, hanswer, rfl⟩ := returns_map.mp h
  obtain ⟨order, found, payment, confirmation, hcalled, rfl, hannounced⟩ :=
    Payment.calledBack_of_returns_confirm hanswer
  by_cases hpaid : confirmation = .alreadyPaid
  · rw [if_pos hpaid, List.append_nil] at hannounced
    subst hpaid
    exact .inl ⟨hcalled.changed, hannounced⟩
  · rw [if_neg hpaid] at hannounced
    exact .inr ⟨_, .paymentConfirmed hcalled hpaid, hannounced⟩

theorem does_refundPayment (id : OrderId) :
    (Operation.refundPayment id).Does context p
      ((Operation.refundPayment id).perform.exec context p).2 := by
  apply does_of_atomic ((Payment.atomic_refundForOrder id).map _)
  intro reply p' h
  obtain ⟨answer, hanswer, rfl⟩ := returns_map.mp h
  obtain ⟨order, payment, stored, hrefunded, hwritten, hannounced⟩ :=
    Payment.refunded_of_returns_refundForOrder hanswer
  exact .inr ⟨_, .refunded hrefunded hwritten, hannounced⟩

theorem does_cancelOrder (user : UserId) (id : OrderId) :
    (Operation.cancelOrder user id).Does context p
      ((Operation.cancelOrder user id).perform.exec context p).2 := by
  apply does_of_atomic ((Order.atomic_cancel user id).map _)
  intro reply p' h
  obtain ⟨answer, hanswer, rfl⟩ := returns_map.mp h
  obtain ⟨order, items, payment, t, events, hcancelled, hends, hannounced⟩ :=
    Order.calledOff_of_returns_cancel hanswer
  refine .inr ⟨events, ?_, hannounced⟩
  cases hends with
  | undue settled => exact .orderCancelled hcancelled rfl settled
  | refunded owed refund written => exact .orderRefunded hcancelled rfl owed refund written
  | refundFailed owed failed => exact .refundFailed hcancelled rfl owed failed

theorem does_checkout {operation : Operation} {user : UserId} {address : AddressId}
    {method : PaymentMethod} {source : Order.Source}
    (h : operation.checkout? = some (user, address, method, source)) :
    operation.Does context p (operation.perform.exec context p).2 := by
  rw [exec_checkout h]
  by_cases hlines : operation.hasLines
  · rw [if_pos hlines, exec_map_snd]
    rcases hout : (Order.checkOut user address method source).exec context p with
      ⟨cause | order, after⟩
    · left
      rw [Order.place, exec_bind, hout]
      exact Order.atomic_checkOut user address method source context p cause after hout
    · have hcommitted : Returns (Order.checkOut user address method source) context p order after :=
        hout
      obtain ⟨address', cart, requests, lines, hplaced⟩ :=
        Order.placed_of_returns rfl hcommitted.without_fault
      obtain ⟨htables, hevents⟩ := Order.details_frame order.id context
        { after with events := after.events ++ [.orderPlaced order] }
      have hannounced :
          after.events ++ [.orderPlaced order] = p.events ++ [.orderPlaced order] := by
        rw [hcommitted.events_eq]
      right
      rw [Order.exec_place hcommitted, htables, hevents]
      exact ⟨_, .placed h hlines hplaced, hannounced⟩
  · rw [if_neg hlines]
    exact .inl ⟨rfl, rfl⟩

theorem does_getCart (user : UserId) :
    (Operation.getCart user).Does context p
      ((Operation.getCart user).perform.exec context p).2 := by
  have hperform : (Operation.getCart user).perform = Reply.cart <$> Cart.fetchOrCreate user := rfl
  rw [hperform, exec_map_snd, Cart.fetchOrCreate, exec_bind]
  rcases hfirst : (Cart.findOrCreate user).exec context p with ⟨cause | cart, created⟩
  · exact .inl (Cart.atomic_findOrCreate user context p cause created hfirst)
  · have hcreated : Returns (Cart.findOrCreate user) context p cart created := hfirst
    have htables := tables_exec (Cart.lines cart.id >>= fun items =>
      pure (FilledCart.mk cart items)) context created
    have hevents := events_exec (Cart.lines cart.id >>= fun items =>
      pure (FilledCart.mk cart items)) context created
    rw [hcreated.events_eq] at hevents
    rcases Cart.returns_findOrCreate rfl hcreated.without_fault with ⟨-, hsame⟩ | hnew
    · exact .inl ⟨htables.trans hsame, hevents⟩
    · right
      dsimp only
      rw [htables, hevents]
      exact ⟨_, .cartCreated hnew, (List.append_nil _).symm⟩

theorem does_replaceCart (user : UserId) (items : List LineRequest) :
    (Operation.replaceCart user items).Does context p
      ((Operation.replaceCart user items).perform.exec context p).2 := by
  apply does_of_atomic ((Cart.atomic_replace user items).map _)
  intro reply p' h
  obtain ⟨answer, hanswer, rfl⟩ := returns_map.mp h
  have hrefilled := Cart.refilled_of_returns rfl hanswer.without_fault
  refine .inr ⟨_, .cartReplaced hrefilled.untouched hrefilled, ?_⟩
  rw [hanswer.events_eq, List.append_nil]

theorem does_reviseProduct (id : ProductId) (stock : Option Int) (isActive : Option Bool) :
    (Operation.reviseProduct id stock isActive).Does context p
      ((Operation.reviseProduct id stock isActive).perform.exec context p).2 := by
  apply does_of_atomic ((Product.atomic_revise id stock isActive).map _)
  intro reply p' h
  obtain ⟨answer, hanswer, rfl⟩ := returns_map.mp h
  obtain ⟨product, hfound, hnatural, hchanged⟩ := Product.returns_revise rfl hanswer.without_fault
  refine .inr ⟨_, .productRevised hfound hnatural hchanged, ?_⟩
  rw [hanswer.events_eq, List.append_nil]

/-- Every operation does nothing or has one of its effects, with or without a fault. -/
theorem does_exec (operation : Operation) (context : Context) (p : Progress) :
    operation.Does context p (operation.perform.exec context p).2 := by
  cases operation with
  | placeFromCart user address method => exact does_checkout rfl
  | placeDirect user address method items => exact does_checkout rfl
  | cancelItem user order item reason => exact does_cancelItem user order item reason
  | cancelOrder user order => exact does_cancelOrder user order
  | updateOrderStatus order status => exact does_updateOrderStatus order status
  | createIntent user order method => exact does_createIntent user order method
  | confirmPayment reference status => exact does_confirmPayment reference status
  | refundPayment order => exact does_refundPayment order
  | getCart user => exact does_getCart user
  | replaceCart user items => exact does_replaceCart user items
  | reviseProduct product stock isActive => exact does_reviseProduct product stock isActive
  | _ => exact does_of_reading rfl

end Operation

/-- The step is a call or a request. -/
def Step.IsServed (step : Step) : Prop :=
  ∀ edit, step.action ≠ .edit edit

theorem Step.isServed_ofCall (operation : Operation) : (ofCall operation).IsServed := by
  intro edit h
  cases h

theorem Step.isServed_of_operation {step : Step} {operation : Operation}
    (h : step.operation? = some operation) : step.IsServed := by
  intro edit hedit
  rw [operation?, hedit] at h
  cases h

/-- A call or a request does nothing or has an effect of its operation. -/
theorem Step.run_effect (currency : String) {step : Step} (store : Store) (h : step.IsServed) :
    ((step.run currency store).store.tables = store.tables ∧
        (step.run currency store).events = []) ∨
      ∃ operation, step.operation? = some operation ∧
        operation.Effect (step.context currency) step.fault store (step.run currency store).events
          (step.run currency store).store.tables := by
  cases hop : step.operation? with
  | none =>
    obtain ⟨hstore, hevents, -⟩ := run_of_no_operation currency store hop h
    exact .inl ⟨congrArg (·.tables) hstore, hevents⟩
  | some operation =>
    obtain ⟨hstore, hevents, -, -⟩ := run_of_operation currency store hop
    rcases operation.does_exec (step.context currency) (step.start store) with
      ⟨htables, hsame⟩ | ⟨events, heffect, hannounced⟩
    · rw [hstore, hevents]
      exact .inl ⟨htables, hsame⟩
    · refine .inr ⟨operation, rfl, ?_⟩
      rw [hstore, hevents, hannounced]
      exact heffect

/-- What every effect of its operation keeps of the tables, a step keeps. -/
theorem Step.keeps (currency : String) {step : Step} {store : Store} {I : Tables → Prop}
    (served : step.IsServed) (before : I store.tables)
    (effect : ∀ operation events t', step.operation? = some operation →
      operation.Effect (step.context currency) step.fault store events t' → I t') :
    I (step.run currency store).store.tables := by
  rcases step.run_effect currency store served with ⟨hsame, -⟩ | ⟨operation, hop, heffect⟩
  · rw [hsame]
    exact before
  · exact effect operation _ _ hop heffect

/-- What every step of a run keeps, the run keeps. -/
theorem storeAfter_induction {currency : String} {I : Store → Prop} {steps : List Step}
    {start : Store} (init : I start)
    (step : ∀ step ∈ steps, ∀ store, I store → I (step.run currency store).store) :
    I (storeAfter currency steps start) := by
  induction steps generalizing start with
  | nil => exact init
  | cons first rest ih =>
    exact ih (step first List.mem_cons_self start init) fun other hother =>
      step other (List.mem_cons_of_mem first hother)

theorem storeAfter_snoc (currency : String) (steps : List Step) (step : Step) (start : Store) :
    storeAfter currency (steps ++ [step]) start =
      (step.run currency (storeAfter currency steps start)).store := by
  rw [storeAfter, List.foldl_append]
  rfl

/-- Induction on a run of calls and requests, from its end. -/
@[elab_as_elim]
theorem served_induction {motive : (steps : List Step) → (∀ step ∈ steps, step.IsServed) → Prop}
    (nil : motive [] (List.forall_mem_nil _))
    (snoc : ∀ (steps : List Step) (step : Step) (served : ∀ other ∈ steps, other.IsServed)
      (last : step.IsServed), motive steps served →
        motive (steps ++ [step])
          (List.forall_mem_append.mpr ⟨served, List.forall_mem_singleton.mpr last⟩))
    (steps : List Step) (served : ∀ step ∈ steps, step.IsServed) : motive steps served := by
  induction steps using List.reverseRecOn with
  | nil => exact nil
  | append_singleton steps step ih =>
    obtain ⟨hearlier, hlast⟩ := List.forall_mem_append.mp served
    exact snoc steps step hearlier (List.forall_mem_singleton.mp hlast) (ih hearlier)

/-- An outcome of a run is that of one of its steps, on the store that the steps before it leave. -/
theorem mem_run {currency : String} {steps : List Step} {start : Store} {outcome : Outcome} :
    outcome ∈ run currency steps start ↔
      ∃ before step after, steps = before ++ step :: after ∧
        outcome = step.run currency (storeAfter currency before start) := by
  induction steps generalizing start with
  | nil => simp [run]
  | cons first rest ih =>
    rw [run, List.mem_cons, ih]
    constructor
    · rintro (rfl | ⟨before, step, after, rfl, rfl⟩)
      · exact ⟨[], first, rest, rfl, rfl⟩
      · exact ⟨first :: before, step, after, rfl, rfl⟩
    · rintro ⟨before, step, after, hsteps, rfl⟩
      cases before with
      | nil =>
        obtain ⟨rfl, rfl⟩ := List.cons.inj hsteps
        exact .inl rfl
      | cons other before =>
        obtain ⟨rfl, rfl⟩ := List.cons.inj hsteps
        exact .inr ⟨before, step, after, rfl, rfl⟩

end Storefront
