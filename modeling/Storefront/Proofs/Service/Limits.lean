import Storefront.Proofs.Order.DirectCheckout
import Storefront.Proofs.Service.Numbering
import Storefront.Proofs.Service.Refusals

/-!
What a call can be too much for. Wherever a run has come to that began without orders, the tables
are ready, their texts fit, and the next identifiers are free. So no constraint of the tables stops
a call, except where it brings a value of its own that no column takes: an order that comes to too
much, a currency that is too long, a text with a NUL.
-/

namespace Storefront

open Session

/-- What a run keeps true of a store that began without orders. -/
structure Store.WellKept (store : Store) : Prop where
  ready : store.tables.Ready
  fitting : store.tables.Fitting
  price_natural : ∀ price ∈ store.tables.productPrices, 0 ≤ price.amount
  referenced : ∀ payment : Payment, payment.row ∈ store.tables.payments → payment.Referenced
  numbered : store.Numbered

/-- What the lines of a checkout come to does not fit the column of the total. -/
def Order.IsOverpriced (t : Tables) (user : UserId) (source : Source) : Prop :=
  tenTo 12 ≤ LineRequest.worth (unitPrice t.productPrices) (linesAsked t user source)

namespace Operation

/-- The operation is a call of the engine. Carts and products are only changed by requests. -/
def isEngineCall : Operation → Bool
  | .getCart _ => false
  | .replaceCart _ _ => false
  | .reviseProduct _ _ _ => false
  | _ => true

/-- The operation brings a value that no column takes. -/
def ExceedsColumn (currency : String) (t : Tables) : Operation → Prop
  | .placeFromCart user _ _ => Order.IsOverpriced t user .cart
  | .placeDirect user _ _ items => Order.IsOverpriced t user (.items items)
  | .cancelItem _ _ _ reason => ¬fitsText reason
  | .createIntent _ _ _ => ¬fitsVarchar 8 currency
  | .confirmPayment reference _ => ¬fitsText reference
  | _ => False

/-- How many products a checkout is over. -/
def productCount (t : Tables) (operation : Operation) : Nat :=
  match operation.checkout? with
  | none => 0
  | some (user, _, _, source) => ((Order.linesAsked t user source).map (·.productId)).dedup.length

end Operation

/-- No sequence has run out before the operation has taken all identifiers that it needs. -/
structure Store.CanNumber (store : Store) (operation : Operation) : Prop where
  orderAddress : Text.fitsSigned 32 store.sequences.orderAddress
  order : Text.fitsSigned 32 store.sequences.order
  orderItems : ∀ n < operation.productCount store.tables,
    Text.fitsSigned 32 (store.sequences.orderItem + n)
  payment : store.sequences.payment < twoTo 48

/-- The states and the payment methods of orders, items and payments fit the columns of their
words. -/
structure Tables.WordsFit (t : Tables) : Prop where
  orders : ∀ row ∈ t.orders, fitsVarchar 32 row.status ∧ fitsVarchar 20 row.paymentMethod ∧
    fitsVarchar 20 row.paymentStatus
  orderItems : ∀ row ∈ t.orderItems, fitsVarchar 20 row.status
  payments : ∀ row ∈ t.payments, fitsVarchar 20 row.method ∧ fitsVarchar 20 row.status

theorem OrderStatus.word_fits (status : OrderStatus) : fitsVarchar 32 (word status) := by
  cases status <;> decide

theorem ItemStatus.word_fits (status : ItemStatus) : fitsVarchar 20 (word status) := by
  cases status <;> decide

theorem PaymentStatus.word_fits (status : PaymentStatus) : fitsVarchar 20 (word status) := by
  cases status <;> decide

theorem PaymentMethod.word_fits (method : PaymentMethod) : fitsVarchar 20 (word method) := by
  cases method <;> decide

/-- Rows that stand for orders, items and payments hold their words. -/
theorem Tables.Lawful.wordsFit {t : Tables} (lawful : t.Lawful) : t.WordsFit := by
  constructor
  · intro row hrow
    obtain ⟨order, rfl⟩ := lawful.coherent.orders_read row hrow
    exact ⟨order.status.word_fits, order.paymentMethod.word_fits, order.paymentStatus.word_fits⟩
  · intro row hrow
    obtain ⟨item, rfl⟩ := lawful.coherent.items_read row hrow
    exact item.status.word_fits
  · intro row hrow
    obtain ⟨payment, rfl⟩ := lawful.settled.sound.read row hrow
    exact ⟨payment.method.word_fits, payment.status.word_fits⟩

/-- Whatever an operation does, the texts that an order takes over fit their columns. -/
theorem Tables.Fitting.effect {context : Context} {fault : Option Fault} {store : Store}
    {operation : Operation} {events : List Event} {t' : Tables} (h : store.tables.Fitting)
    (heffect : operation.Effect context fault store events t') : t'.Fitting := by
  constructor
  · intro product hproduct
    have hname : product.name ∈ store.tables.products.map (·.name) := by
      rw [← (Product.Kept.effect heffect).names_eq]
      exact List.mem_map_of_mem hproduct
    obtain ⟨old, hold, hsame⟩ := List.mem_map.mp hname
    rw [← hsame]
    exact h.product_names old hold
  · rw [heffect.productPrices_eq]
    exact h.price_types
  · rw [heffect.addresses_eq]
    exact h.destinations

variable {context : Context} {p : Progress} {cause : Error} {currency : String} {steps : List Step}
  {step : Step} {start store : Store} {operation : Operation}

/-- Wherever a run has come to that began without orders, the store is well kept. -/
theorem wellKept_storeAfter (currency : String) (served : ∀ step ∈ steps, step.IsServed)
    (constrained : start.tables.Constrained) (fitting : start.tables.Fitting)
    (orders : start.tables.orders = []) (copies : start.tables.orderAddresses = []) :
    (storeAfter currency steps start).WellKept where
  ready := ready_storeAfter currency served constrained orders
  fitting := storeAfter_induction (I := fun store => store.tables.Fitting) fitting
    fun step hstep store hstore =>
      step.keeps currency (served step hstep) hstore fun _ _ _ _ heffect => hstore.effect heffect
  price_natural := storeAfter_induction
    (I := fun store => ∀ price ∈ store.tables.productPrices, 0 ≤ price.amount)
    constrained.price_natural fun step hstep store hstore => by
      rw [Step.productPrices_eq currency store (served step hstep)]
      exact hstore
  referenced := referenced_storeAfter served orders (constrained.orderItems_eq_nil orders)
    (constrained.payments_eq_nil orders)
  numbered := numbered_storeAfter served constrained orders copies

namespace Order

variable {user : UserId} {addressId : AddressId} {method : PaymentMethod} {source : Source}

/-- A checkout that is turned down is not answered that something was not found, and the store stops
none but those that come to too much. -/
theorem TurnedDown.cause_cases (h : TurnedDown p.tables user addressId source cause) :
    cause ≠ .notFound ∧ (cause = .internal → IsOverpriced p.tables user source) := by
  cases h with
  | noAddress => simp
  | unasked _ unasked =>
    cases unasked with
    | noCart => simp
    | emptyCart => simp
    | uncountable uncountable =>
      obtain ⟨message, rfl⟩ := uncountable.eq_invalidInput
      simp
  | unplaceable _ asked unplaceable =>
    cases unplaceable with
    | lacking _ _ lacks => cases lacks <;> simp
    | overpriced _ large =>
      refine ⟨by simp, fun _ => ?_⟩
      rw [IsOverpriced, ← asked.sums.2.worth_eq]
      exact large

theorem cause_cases_of_fails_place (h : Fails (place user addressId method source) context p cause)
    (calm : p.fault = none) (kept : p.store.WellKept) (asked : operation.checkout? =
      some (user, addressId, method, source)) (numbers : p.store.CanNumber operation) :
    cause ≠ .notFound ∧ (cause = .internal → IsOverpriced p.tables user source) := by
  have hroom := kept.numbered.hasRoom numbers.orderAddress numbers.order numbers.orderItems
  refine (turnedDown_of_fails_place h calm kept.ready.lawful.coherent.item_order kept.fitting
    kept.ready.supplied.products_key kept.price_natural hroom ?_).cause_cases
  intro cart requests hrequested
  rw [hrequested.sums.2.length_eq, Operation.productCount, asked]
  exact Nat.le_refl _

end Order

namespace Operation

/-- A checkout fails for what is wrong with it, or because it comes to too much. -/
theorem cause_of_fails_checkout (h : Fails operation.perform context p cause)
    (calm : p.fault = none)
    (kept : p.store.WellKept) (numbers : p.store.CanNumber operation)
    (asked : operation.checkout?.isSome) :
    cause ≠ .notFound ∧ (cause = .internal →
      operation.ExceedsColumn context.currency p.tables) := by
  cases operation with
  | placeFromCart user address method =>
    have hplace : Fails (Order.place user address method .cart) context p cause := fails_map.mp h
    exact Order.cause_cases_of_fails_place hplace calm kept rfl numbers
  | placeDirect user address method items =>
    have hdirect := fails_map.mp h
    rw [Order.placeDirect, fails_bind_require] at hdirect
    rcases hdirect with ⟨-, rfl⟩ | ⟨-, hplace⟩
    · simp
    · exact Order.cause_cases_of_fails_place hplace calm kept rfl numbers
  | _ => cases asked

/-- A call that is no checkout fails for what is wrong with it, or because it brings a value that no
column takes. -/
theorem cause_of_fails (h : Fails operation.perform context p cause) (calm : p.fault = none)
    (kept : p.store.WellKept) (numbers : p.store.CanNumber operation)
    (engine : operation.isEngineCall) (asked : operation.checkout? = none) :
    cause.IsExpected ∨
      cause = .internal ∧ operation.ExceedsColumn context.currency p.tables := by
  have hready := kept.ready
  have hfresh := Payment.fresh_of_numbered kept.numbered numbers.payment
  cases operation with
  | placeFromCart | placeDirect => simp [checkout?] at asked
  | getCart | replaceCart | reviseProduct => cases engine
  | cancelItem => exact Order.cause_of_fails_cancelItem (fails_map.mp h) calm hready
  | cancelOrder => exact .inl (Order.expected_of_fails_cancel (fails_map.mp h) calm hready)
  | updateOrderStatus =>
    exact .inl (Order.expected_of_fails_updateStatus (fails_map.mp h) calm hready)
  | getOrder =>
    exact .inl (Order.expected_of_fails_detailsFor (fails_map.mp h) calm hready.lawful.coherent)
  | getAnyOrder =>
    exact .inl (Order.expected_of_fails_details (fails_map.mp h) calm hready.lawful.coherent)
  | listOrders =>
    exact .inl (Order.expected_of_fails_pageFor (fails_map.mp h) calm hready.lawful.coherent)
  | listAllOrders =>
    exact absurd (fails_map.mp h) (Order.not_fails_listAll calm hready.lawful.coherent)
  | listItems => exact .inl (Order.expected_of_fails_itemsFor (fails_map.mp h) calm hready.lawful)
  | createIntent =>
    exact Payment.cause_of_fails_createIntent (fails_map.mp h) calm hready kept.referenced hfresh
  | confirmPayment => exact Payment.cause_of_fails_confirm (fails_map.mp h) calm hready
  | refundPayment =>
    exact .inl (Payment.expected_of_fails_refundForOrder (fails_map.mp h) calm hready)
  | getPayment =>
    exact .inl (Payment.expected_of_fails_findForUser (fails_map.mp h) calm hready.lawful)

end Operation

/-- The store does not stop the call. It is answered that the store failed only if it brings a value
that no column takes. No product of an item that is cancelled is missing, no order that is placed is
lost, no refund of a cancelled order fails, no stock that is put back is too large, and no state
that is written has a word that is too long. -/
structure Step.Unhindered (currency : String) (step : Step) (operation : Operation)
    (store : Store) :
    Prop where
  stopped : (step.run currency store).answer = .reply (.error .internal) →
    operation.ExceedsColumn currency store.tables
  product_found : operation.checkout? = none → ∀ id,
    (step.run currency store).answer ≠ .reply (.error (.productNotFound id))
  order_found : operation.checkout?.isSome →
    (step.run currency store).answer ≠ .reply (.error .notFound)
  refunded : ∀ id cause, .refundFailed id cause ∉ (step.run currency store).events
  in_range : (step.run currency store).overflowed = false
  words_fit : (step.run currency store).store.tables.WordsFit

namespace Step

/-- A call that is answered by an error fails in it. -/
theorem fails_of_answer (called : step.action = .call operation)
    (h : (step.run currency store).answer = .reply (.error cause)) :
    Fails operation.perform (step.context currency) (step.start store) cause := by
  have hop : step.operation? = some operation := by rw [operation?, called]
  rw [answer_of_operation currency store hop, answerOf, called] at h
  exact Answer.reply.inj h

theorem not_refundFailed (currency : String) {id : OrderId} (served : step.IsServed)
    (calm : step.fault = none) (ready : store.tables.Ready) :
    .refundFailed id cause ∉ (step.run currency store).events := by
  rcases step.run_effect currency store served with ⟨-, hevents⟩ | ⟨operation, -, heffect⟩
  · rw [hevents]
    exact List.not_mem_nil
  · rw [calm] at heffect
    exact heffect.not_refundFailed ready.lawful.coherent ready.lawful.settled

/-- A call on a well-kept store that meets no fault is not stopped. -/
theorem unhindered (called : step.action = .call operation) (engine : operation.isEngineCall)
    (calm : step.fault = none) (kept : store.WellKept) (numbers : store.CanNumber operation)
    {balances : List (ProductId × Int)} (balanced : store.tables.Balanced balances)
    (limit : ∀ balance ∈ balances, Text.fitsSigned 32 balance.2) :
    step.Unhindered currency operation store := by
  have hop : step.operation? = some operation := by rw [operation?, called]
  have hserved := isServed_of_operation hop
  constructor
  · intro h
    have hfails := fails_of_answer called h
    by_cases asked : operation.checkout?.isSome
    · exact (operation.cause_of_fails_checkout hfails calm kept numbers asked).2 rfl
    · have hnone := Option.not_isSome_iff_eq_none.mp asked
      rcases operation.cause_of_fails hfails calm kept numbers engine hnone with
        hexpected | ⟨-, hexceeds⟩
      · exact hexpected.elim
      · exact hexceeds
  · intro asked id h
    rcases operation.cause_of_fails (fails_of_answer called h) calm kept numbers engine asked with
      hexpected | ⟨hcause, -⟩
    · exact hexpected
    · cases hcause
  · intro asked h
    exact (operation.cause_of_fails_checkout (fails_of_answer called h) calm kept numbers
      asked).1 rfl
  · intro id cause
    exact not_refundFailed currency hserved calm kept.ready
  · exact overflowed_eq_false hserved limit kept.ready.lawful.coherent balanced
  · exact (Step.lawful hserved kept.ready.lawful).wordsFit

end Step

/-- Wherever a run has come to that began without orders and sets no stock, no constraint of the
tables stops a call that meets no fault, unless it brings a value that no column takes. -/
theorem calls_unhindered (currency : String) {steps : List Step} {step : Step} {start : Store}
    {operation : Operation} (constrained : start.tables.Constrained)
    (fitting : start.tables.Fitting) (orders : start.tables.orders = [])
    (copies : start.tables.orderAddresses = []) (served : ∀ step ∈ steps, step.IsServed)
    (keeps : ∀ step ∈ steps, step.KeepsStock) (called : step.action = .call operation)
    (engine : operation.isEngineCall) (calm : step.fault = none)
    (numbers : (storeAfter currency steps start).CanNumber operation) :
    step.Unhindered currency operation (storeAfter currency steps start) := by
  obtain ⟨hitems, hbalanced⟩ := constrained.balanced orders
  obtain ⟨-, hafter⟩ := balanced_storeAfter currency served keeps
    (Tables.Coherent.of_empty orders hitems) hbalanced
  refine Step.unhindered called engine calm
    (wellKept_storeAfter currency served constrained fitting orders copies) numbers hafter ?_
  intro balance hbalance
  obtain ⟨product, hproduct, rfl⟩ := List.mem_map.mp hbalance
  exact constrained.stock_fits product hproduct

/-- User 7 buys lamps and mugs, and asks to pay for them online. -/
def Step.lampsToPay : List Step :=
  [ofCall (.placeDirect 7 6 .stripe [⟨4, 1⟩, ⟨3, 2⟩]), ofCall (.createIntent 7 1 .stripe)]

/-- The first item is cancelled for a reason that no column takes. -/
def Step.nulReason : Step := .ofCall (.cancelItem 7 1 1 "\x00")

theorem calls_nulReason :
    (Step.nulReason.run "INR" (storeAfter "INR" Step.lampsToPay .stocked)).answer =
        .reply (.error .internal) ∧
      Step.nulReason.Unhindered "INR" (.cancelItem 7 1 1 "\x00")
        (storeAfter "INR" Step.lampsToPay .stocked) := by
  have hserved : ∀ step ∈ Step.lampsToPay, step.IsServed := by
    simp [Step.lampsToPay, Step.IsServed, Step.ofCall]
  have hkeeps : ∀ step ∈ Step.lampsToPay, step.KeepsStock := by
    simp [Step.lampsToPay, Step.KeepsStock, Step.ofCall, Step.operation?]
  have hnumbers : (storeAfter "INR" Step.lampsToPay .stocked).CanNumber
      (.cancelItem 7 1 1 "\x00") := by
    constructor <;> decide +kernel
  have hstopped : ((Operation.perform (.cancelItem 7 1 1 "\x00")).exec
      (Step.nulReason.context "INR")
      (Step.nulReason.start (storeAfter "INR" Step.lampsToPay .stocked))).1 = .error .internal := by
    decide +kernel
  refine ⟨?_, calls_unhindered "INR" Store.constrained_stocked Store.fitting_stocked rfl rfl hserved
    hkeeps rfl rfl rfl hnumbers⟩
  rw [Step.answer_of_operation "INR" _ rfl, hstopped]
  rfl

end Storefront
