import Storefront.Proofs.Order.Cancellation

/-!
What refunds, callbacks of the gateway and payment intents do. A refund and a callback that settles
a payment amend its order with it; an intent adds a payment to a pending order that has none.
-/

namespace Storefront

open Session

variable {context : Context} {p p' : Progress}

namespace Payment

/-- The columns of a payment that never change once it is created. -/
def fixed (payment : Payment) : Uuid × OrderId × PaymentMethod × Cents × String × Instant :=
  (payment.id, payment.orderId, payment.method, payment.amount, payment.currency, payment.createdAt)

theorem id_of_fixed {payment next : Payment} (h : next.fixed = payment.fixed) :
    next.id = payment.id :=
  congrArg (fun columns => columns.1) h

theorem orderId_of_fixed {payment next : Payment} (h : next.fixed = payment.fixed) :
    next.orderId = payment.orderId :=
  congrArg (fun columns => columns.2.1) h

theorem method_of_fixed {payment next : Payment} (h : next.fixed = payment.fixed) :
    next.method = payment.method :=
  congrArg (fun columns => columns.2.2.1) h

theorem amount_of_fixed {payment next : Payment} (h : next.fixed = payment.fixed) :
    next.amount = payment.amount :=
  congrArg (fun columns => columns.2.2.2.1) h

theorem overwrite_row {payment next : Payment} {now : Instant} (h : next.fixed = payment.fixed) :
    next.overwrite now payment.row = (next.stamp now).row := by
  simp only [fixed, Prod.mk.injEq] at h
  obtain ⟨hid, horder, hmethod, hamount, hcurrency, hcreated⟩ := h
  simp only [overwrite, row, stamp, hid, horder, hmethod, hamount, hcurrency, hcreated]

/-- Writing back a payment that was read answers the payment as it is written. -/
theorem returns_save_of_found {payment next saved : Payment} (calm : p.fault = none)
    (found : p.tables.payments.find? (fun row => row.id = payment.id) = some payment.row)
    (fixed : next.fixed = payment.fixed) (h : Returns (save next) context p saved p') :
    saved = next.stamp context.clock.store ∧
      isStorable p.tables (next.stamp context.clock.store).row ∧
      p'.tables = { p.tables with
        payments := writeTo context.clock.store (some next) p.tables.payments } := by
  obtain ⟨row, hrow, hstorable, hsaved, rfl⟩ := (returns_save calm).mp h
  rw [id_of_fixed fixed, found, Option.some.injEq] at hrow
  rw [← hrow, overwrite_row fixed] at hsaved hstorable
  exact ⟨row_injective hsaved, hstorable, rfl⟩

/-- The payment of an order is refunded; `stored` is the row that is written back. -/
structure Refunded (clock : Clock) (id : OrderId) (t : Tables) (order : Order) (payment : Payment)
    (stored : PaymentRow) (t' : Tables) : Prop where
  order_found : t.orders.find? (fun row => row.id = id) = some order.row
  payment_found : FoundIn id (some payment) t.payments
  paid : payment.status = .paid
  row_found : t.payments.find? (fun row => row.id = payment.id) = some stored
  changed : t' = t.amend clock.store
    ({ order with paymentStatus := .refunded }, some { payment with status := .refunded })

theorem refunded_of_returns {id : OrderId} {answer : Payment} (calm : p.fault = none)
    (h : Returns (giveBack id) context p answer p') :
    ∃ order payment stored, Refunded context.clock id p.tables order payment stored p'.tables ∧
      answer.row = overwrite { payment with status := .refunded } context.clock.store stored := by
  unfold giveBack at h
  simp only [returns_transaction, returns_bind, Order.returns_find calm, returns_found,
    returns_findForOrder calm, returns_refund, returns_discard, returns_pure, and_assoc,
    exists_and_left, exists_eq_left] at h
  obtain ⟨_, horder, order, rfl, _, hpayment, payment, rfl, hpaid, refunded, middle, hsave, ⟨⟩,
    last, ⟨saved, hmark⟩, rfl, rfl⟩ := h
  obtain rfl := Order.id_of_found horder
  have calm' : middle.fault = none := hsave.fault_eq_none calm
  obtain ⟨stored, hstored, -, hrefunded, rfl⟩ := (returns_save calm).mp hsave
  have hfixed : Order.fixed { order with paymentStatus := .refunded } = order.fixed := rfl
  obtain ⟨-, hsaved⟩ := Order.returns_save_of_found calm' horder hfixed hmark
  refine ⟨order, payment, stored, ?_, hrefunded⟩
  exact ⟨horder, hpayment, hpaid, hstored, hsaved⟩

/-- A payment as a callback leaves it. -/
def confirmed (payment : Payment) (confirmation : Confirmation) (now : Instant) : Payment :=
  match confirmation with
  | .alreadyPaid => payment
  | .paid => { payment with status := .paid, paidAt := some now, failureReason := none }
  | .failed => { payment with status := .failed, failureReason := some "Gateway reported failure" }

/-- The order of a payment that a callback settles. -/
def settledBy (order : Order) (payment : Payment) (now : Instant) : Order :=
  { order with paymentStatus := .paid, paymentMethod := payment.method, paidAt := some now }

/-- The store after a callback. -/
def callBack (clock : Clock) (order : Order) (payment : Payment) (confirmation : Confirmation)
    (t : Tables) : Tables :=
  match confirmation with
  | .alreadyPaid => t
  | .paid => t.amend clock.store
      (settledBy order payment clock.wall, some (payment.confirmed .paid clock.wall))
  | .failed => { t with
      payments := writeTo clock.store (some (payment.confirmed .failed clock.wall)) t.payments }

/-- The payment that a callback answers. -/
def answered (payment : Payment) (confirmation : Confirmation) (clock : Clock) : Payment :=
  match confirmation with
  | .alreadyPaid => payment
  | .paid => (payment.confirmed .paid clock.wall).stamp clock.store
  | .failed => (payment.confirmed .failed clock.wall).stamp clock.store

/-- A callback reaches a payment by its reference. -/
structure CalledBack (clock : Clock) (reference reported : String) (t : Tables)
    (order : Order) (found payment : Payment) (confirmation : Confirmation) (t' : Tables) :
    Prop where
  text : fitsText reference
  reference_found :
    t.payments.find? (fun row => row.gatewayId = some reference) = some found.row
  order_found : t.orders.find? (fun row => row.id = found.orderId) = some order.row
  payment_found : t.payments.find? (fun row => row.id = found.id) = some payment.row
  decided : decideConfirmation order.status payment.status reported = .ok confirmation
  changed : t' = callBack clock order payment confirmation t

theorem returns_settle {order : Order} {payment answer : Payment} (calm : p.fault = none)
    (order_found : p.tables.orders.find? (fun row => row.id = order.id) = some order.row)
    (payment_found : p.tables.payments.find? (fun row => row.id = payment.id) = some payment.row)
    (h : Returns (settle order payment) context p answer p') :
    answer = (payment.confirmed .paid context.clock.wall).stamp context.clock.store ∧
      p'.tables = callBack context.clock order payment .paid p.tables := by
  unfold settle at h
  rw [returns_bind_wallTime] at h
  obtain ⟨paid, middle, hsave, h⟩ := returns_bind.mp h
  obtain ⟨⟨⟩, last, hmark, h⟩ := returns_bind.mp h
  obtain ⟨saved, hmark⟩ := returns_discard.mp hmark
  obtain ⟨rfl, rfl⟩ := returns_pure.mp h
  have hfixed : (payment.confirmed .paid context.clock.wall).fixed = payment.fixed := rfl
  obtain ⟨rfl, -, htables⟩ := returns_save_of_found calm payment_found hfixed hsave
  have hfound : middle.tables.orders.find? (fun row => row.id = order.id) = some order.row := by
    rw [htables]
    exact order_found
  have hfixed : (settledBy order payment context.clock.wall).fixed = order.fixed := rfl
  obtain ⟨-, hsaved⟩ :=
    Order.returns_save_of_found (hsave.fault_eq_none calm) hfound hfixed hmark
  refine ⟨rfl, ?_⟩
  rw [hsaved, htables]
  rfl

/-- A callback gets as far as the order and the payment that its reference leads to. -/
theorem exec_onReference {α : Type} {reference : String} {order : Order} {payment : Payment}
    (calm : p.fault = none) (text : fitsText reference)
    (reference_found :
      p.tables.payments.find? (fun row => row.gatewayId = some reference) = some payment.row)
    (order_found : p.tables.orders.find? (fun row => row.id = payment.orderId) = some order.row)
    (payment_found : p.tables.payments.find? (fun row => row.id = payment.id) = some payment.row)
    (next : Order → Payment → Session α) :
    (do
      let found ← Session.found .paymentNotFound (← findByGateway reference)
      let order ← Session.found .notFound (← Order.find found.orderId)
      let payment ← Session.found .paymentNotFound (← find found.id)
      next order payment).exec context p = (next order payment).exec context p := by
  have hreference : Returns (findByGateway reference) context p (some payment) p :=
    (returns_findByGateway calm).mpr ⟨text, reference_found, rfl⟩
  have horder : Returns (Order.find payment.orderId) context p (some order) p :=
    (Order.returns_find calm).mpr ⟨order_found, rfl⟩
  have hpayment : Returns (find payment.id) context p (some payment) p :=
    (returns_find calm).mpr ⟨payment_found, rfl⟩
  have hfound {β : Type} (cause : Error) (a : β) :
      Returns (Session.found cause (some a)) context p a p :=
    returns_found.mpr ⟨rfl, rfl⟩
  rw [hreference.exec_bind, (hfound _ payment).exec_bind, horder.exec_bind,
    (hfound _ order).exec_bind, hpayment.exec_bind, (hfound _ payment).exec_bind]

theorem calledBack_of_returns {reference reported : String} {answer : Payment × Bool}
    (calm : p.fault = none)
    (h : Returns (applyCallback reference reported) context p answer p') :
    ∃ order found payment confirmation,
      CalledBack context.clock reference reported p.tables order found payment confirmation
        p'.tables ∧
      answer = (payment.answered confirmation context.clock,
        decide (confirmation ≠ .alreadyPaid)) := by
  unfold applyCallback at h
  simp only [returns_transaction, returns_bind, Order.returns_find calm, returns_found,
    returns_findByGateway calm, returns_find calm, returns_ofExcept, and_assoc, exists_and_left,
    exists_eq_left] at h
  obtain ⟨htext, _, hreference, found, rfl, _, horder, order, rfl, _, hpayment, payment, rfl,
    confirmation, hdecided, h⟩ := h
  have horder' : p.tables.orders.find? (fun row => row.id = order.id) = some order.row := by
    rw [Order.id_of_found horder]
    exact horder
  have hid : payment.id = found.id := (mem_of_find?_key hpayment).2
  have hpayment' :
      p.tables.payments.find? (fun row => row.id = payment.id) = some payment.row := by
    rw [hid]
    exact hpayment
  have hbuild (changed : p'.tables = callBack context.clock order payment confirmation p.tables) :=
    CalledBack.mk htext hreference horder hpayment hdecided changed
  refine ⟨order, found, payment, confirmation, ?_⟩
  cases confirmation with
  | alreadyPaid =>
    obtain ⟨rfl, rfl⟩ := returns_pure.mp h
    exact ⟨hbuild rfl, rfl⟩
  | paid =>
    obtain ⟨paid, last, hsettle, h⟩ := returns_bind.mp h
    obtain ⟨rfl, rfl⟩ := returns_pure.mp h
    obtain ⟨rfl, htables⟩ := returns_settle calm horder' hpayment' hsettle
    exact ⟨hbuild htables, rfl⟩
  | failed =>
    obtain ⟨failed, last, hsave, h⟩ := returns_bind.mp h
    obtain ⟨rfl, rfl⟩ := returns_pure.mp h
    have hfixed : (payment.confirmed .failed context.clock.wall).fixed = payment.fixed := rfl
    obtain ⟨rfl, -, htables⟩ := returns_save_of_found calm hpayment' hfixed hsave
    exact ⟨hbuild htables, rfl⟩

/-- A payment as it is created. -/
def opened (clock : Clock) (currency : String) (id : Uuid) (order : OrderId) (amount : Cents)
    (method : PaymentMethod) (gatewayId : Option String) : Payment where
  id := id
  orderId := order
  method := method
  amount := amount
  currency := currency
  status := .pending
  gatewayId := gatewayId
  failureReason := none
  paidAt := none
  createdAt := clock.store
  updatedAt := clock.store

/-- A pending order without a payment gets one. -/
structure Opened (clock : Clock) (currency : String) (user : UserId) (id : OrderId)
    (method : PaymentMethod) (number : Nat) (t : Tables) (order : Order) (payment : Payment)
    (t' : Tables) : Prop where
  order_found : t.orders.find? (fun row => row.id = id) = some order.row
  owner : order.userId = user
  pending : order.status = .pending
  unpaid : ∀ row ∈ t.payments, row.orderId ≠ id
  payment_eq : payment = opened clock currency (Uuid.numbered number) id order.finalTotal method
    (gatewayReference method (Uuid.numbered number))
  amount_fits : fitsNumeric 12 payment.amount
  currency_fits : fitsVarchar 8 currency
  fresh : ∀ row ∈ t.payments, row.id ≠ payment.id
  reference_fits : payment.gatewayId.all (fitsVarchar 128)
  reference_fresh : ∀ row ∈ t.payments, ∀ reference, payment.gatewayId = some reference →
    row.gatewayId ≠ some reference
  changed : t' = { t with payments := t.payments ++ [payment.row] }

/-- A payment that is opened is stored, with its order. -/
theorem Opened.mem {clock : Clock} {currency : String} {user : UserId} {id : OrderId}
    {method : PaymentMethod} {number : Nat} {t t' : Tables} {order : Order} {payment : Payment}
    (h : Opened clock currency user id method number t order payment t') :
    payment.row ∈ t'.payments ∧ payment.orderId = id := by
  refine ⟨?_, congrArg (·.orderId) h.payment_eq⟩
  rw [h.changed]
  exact List.mem_append_right _ List.mem_cons_self

theorem returns_create {order : OrderId} {method : PaymentMethod} {amount : Cents}
    {currency : String} {payment : Payment} (calm : p.fault = none)
    (h : Returns (create order method amount currency) context p payment p') :
    payment = opened context.clock currency (Uuid.numbered p.sequences.payment) order amount method
        none ∧
      fitsNumeric 12 amount ∧ fitsVarchar 8 currency ∧
      (∀ row ∈ p.tables.payments, row.id ≠ payment.id ∧ row.orderId ≠ order) ∧
      p'.tables = { p.tables with payments := p.tables.payments ++ [payment.row] } := by
  unfold create at h
  rw [returns_bind_storeTime] at h
  simp only [returns_bind, returns_sequences, Table.returns_insert calm, returns_pure, and_assoc,
    exists_and_left, exists_eq_left, exists_const, Bool.and_eq_true, List.all_eq_true,
    decide_eq_true_eq] at h
  obtain ⟨hamount, hcurrency, -, hfresh, rfl, rfl⟩ := h
  exact ⟨rfl, hamount, hcurrency, hfresh, rfl⟩

/-- A payment just created is found by its identifier. -/
theorem find?_opened {rows : List PaymentRow} {clock : Clock} {currency : String} {id : Uuid}
    {order : OrderId} {amount : Cents} {method : PaymentMethod} {gatewayId : Option String}
    (fresh : ∀ row ∈ rows, row.id ≠ id) :
    (rows ++ [(opened clock currency id order amount method gatewayId).row]).find?
        (fun row => row.id = id) =
      some (opened clock currency id order amount method gatewayId).row := by
  rw [List.find?_append, find?_key_eq_none.mpr fresh]
  simp [row, opened]

/-- A payment just created is written back with its reference. -/
theorem returns_save_opened {rows : List PaymentRow} {currency reference : String} {id : Uuid}
    {order : OrderId} {amount : Cents} {method : PaymentMethod} {saved : Payment}
    (calm : p.fault = none)
    (stored : p.tables.payments =
      rows ++ [(opened context.clock currency id order amount method none).row])
    (fresh : ∀ row ∈ rows, row.id ≠ id)
    (h : Returns (save (opened context.clock currency id order amount method (some reference)))
      context p saved p') :
    saved = opened context.clock currency id order amount method (some reference) ∧
      fitsVarchar 128 reference ∧ (∀ row ∈ rows, row.gatewayId ≠ some reference) ∧
      p'.tables = { p.tables with payments := rows ++ [saved.row] } := by
  have hfound : p.tables.payments.find? (fun row => row.id = id) =
      some (opened context.clock currency id order amount method none).row := by
    rw [stored]
    exact find?_opened fresh
  have hfixed : (opened context.clock currency id order amount method (some reference)).fixed =
    (opened context.clock currency id order amount method none).fixed := rfl
  obtain ⟨rfl, hstorable, htables⟩ := returns_save_of_found calm hfound hfixed h
  simp only [isStorable, Bool.and_eq_true, List.all_eq_true, Bool.or_eq_true, decide_eq_true_eq,
    row, stamp, opened, Option.all_some] at hstorable
  obtain ⟨⟨hfits, hfresh⟩, -⟩ := hstorable
  refine ⟨rfl, hfits, fun row hrow => ?_, ?_⟩
  · rcases hfresh row (by rw [stored]; exact List.mem_append_left _ hrow) with hid | hreference
    · exact absurd (of_decide_eq_true hid) (fresh row hrow)
    · exact hreference
  · rw [htables, stored, writeTo, updateWhere_append, updateWhere_eq_self]
    · simp [row, opened, overwrite, stamp]
    · exact fun row hrow => decide_eq_false (fresh row hrow)

theorem opened_of_returns {user : UserId} {id : OrderId} {method : PaymentMethod}
    {currency : String} {answer : PaymentIntent} (calm : p.fault = none)
    (h : Returns (openIntent user id method currency) context p answer p') :
    ∃ order payment,
      Opened context.clock currency user id method p.sequences.payment p.tables order payment
        p'.tables ∧
      answer = ⟨payment, payment.gatewayId⟩ := by
  unfold openIntent at h
  simp only [returns_transaction, returns_bind, Order.returns_find calm, returns_found,
    Order.returns_requireOwner, returns_require, returns_findForOrder calm, and_assoc,
    exists_and_left, exists_eq_left, exists_const, decide_eq_true_eq] at h
  obtain ⟨_, horder, order, rfl, howner, hpending, _, -, -, blank, middle, hcreate, h⟩ := h
  obtain ⟨hblank, hamount, hcurrency, hfresh, htables⟩ := returns_create calm hcreate
  have hunpaid : ∀ row ∈ p.tables.payments, row.orderId ≠ id := fun row hrow => (hfresh row hrow).2
  have hid : blank.id = Uuid.numbered p.sequences.payment := congrArg (·.id) hblank
  have hnew : ∀ row ∈ p.tables.payments, row.id ≠ blank.id := fun row hrow => (hfresh row hrow).1
  refine ⟨order, opened context.clock currency (Uuid.numbered p.sequences.payment) id
    order.finalTotal method (gatewayReference method (Uuid.numbered p.sequences.payment)), ?_⟩
  rw [hid] at h hnew
  cases hreference : gatewayReference method (Uuid.numbered p.sequences.payment) with
  | none =>
    rw [hreference] at h
    obtain ⟨rfl, rfl⟩ := returns_pure.mp h
    rw [hblank] at htables ⊢
    refine ⟨⟨horder, howner, hpending, hunpaid, ?_, hamount, hcurrency, hnew, rfl, ?_,
      htables⟩, rfl⟩
    · rw [hreference]
    · exact fun _ _ _ h => absurd h (by simp [opened])
  | some reference =>
    rw [hreference] at h
    obtain ⟨saved, last, hsave, h⟩ := returns_bind.mp h
    obtain ⟨rfl, rfl⟩ := returns_pure.mp h
    rw [hblank] at hsave htables
    have hstored := congrArg (·.payments) htables
    obtain ⟨rfl, hfits, hunused, hsaved⟩ :=
      returns_save_opened (hcreate.fault_eq_none calm) hstored hnew hsave
    refine ⟨⟨horder, howner, hpending, hunpaid, ?_, hamount, hcurrency, hnew, hfits, ?_, ?_⟩, rfl⟩
    · rw [hreference]
    · intro row hrow other hother
      cases hother
      exact hunused row hrow
    · rw [hsaved, htables]

end Payment
end Storefront
