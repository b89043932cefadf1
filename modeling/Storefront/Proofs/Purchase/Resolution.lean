import Storefront.Proofs.Purchase.Callbacks

/-!
What a gateway reference leads to. It tells the payment that it was made for, no other payment has
it, and the payment keeps it; so a callback with the reference that a client was given finds the
client's payment and its order for ever, and touches nothing else. Cash on delivery has no
reference, and no callback changes it.
-/

namespace Storefront

open Session

/-- Nothing but the order and the payment differs. -/
structure Tables.SameApartFrom (payment : Uuid) (order : OrderId) (t t' : Tables) : Prop where
  orders : t'.orders.filter (fun row => row.id ≠ order) = t.orders.filter fun row => row.id ≠ order
  payments : t'.payments.filter (fun row => row.id ≠ payment) =
    t.payments.filter fun row => row.id ≠ payment
  others : t' = { t with orders := t'.orders, payments := t'.payments }

/-- A reference leads to the payment and to its order. -/
structure Store.Resolves (currency : String) (store : Store) (reference : String) (payment : Uuid)
    (order : OrderId) : Prop where
  payment_found : ∃ row,
    store.tables.payments.find? (fun row => row.gatewayId = some reference) = some row ∧
      row.id = payment ∧ row.orderId = order
  order_found : ∃ row ∈ store.tables.orders, row.id = order
  /-- A callback that succeeds is answered by the payment. -/
  answered : ∀ (call : Step) (text : String),
    call.operation? = some (.confirmPayment reference text) →
      (call.run currency store).answer.isError = false → ∃ found : Payment,
        (call.run currency store).answer =
          call.answerOf (.confirmPayment reference text) (.ok (.payment found)) ∧
        found.id = payment ∧ found.orderId = order
  /-- One that meets no fault fails only because of the payment's state or of what is reported. -/
  refused : ∀ (call : Step) (text : String), call.CallsBack reference text →
    (call.run currency store).answer.isError → ∃ message,
      call.OnlyAnswers currency store (.confirmPayment reference text)
        (.error (.invalidPaymentStatus message))
  /-- Whatever a callback reports, and whatever fault it meets. -/
  confined : ∀ (call : Step) (text : String),
    call.operation? = some (.confirmPayment reference text) →
      store.tables.SameApartFrom payment order (call.run currency store).store.tables

variable {currency : String} {store : Store} {clock : Clock} {t t' : Tables}
  {reference text : String}

namespace Tables.SameApartFrom

theorem refl (payment : Uuid) (order : OrderId) (t : Tables) : t.SameApartFrom payment order t :=
  ⟨rfl, rfl, rfl⟩

/-- Writing back a payment changes its row alone. -/
theorem payments_writeTo (payment : Payment) (now : Instant) (rows : List PaymentRow) :
    (Payment.writeTo now (some payment) rows).filter (fun row => row.id ≠ payment.id) =
      rows.filter fun row => row.id ≠ payment.id :=
  filter_updateWhere_eq (fun _ => rfl) fun _ _ hother => decide_eq_false (of_decide_eq_true hother)

theorem orders_writeTo (order : Order) (now : Instant) (rows : List OrderRow) :
    (order.writeTo now rows).filter (fun row => row.id ≠ order.id) =
      rows.filter fun row => row.id ≠ order.id :=
  filter_updateWhere_eq (fun _ => rfl) fun _ _ hother => decide_eq_false (of_decide_eq_true hother)

end Tables.SameApartFrom

/-- A callback does nothing, or it reaches a payment by its reference. -/
theorem Step.calledBack_cases {call : Step} (currency : String) (store : Store)
    (asked : call.operation? = some (.confirmPayment reference text)) :
    (call.run currency store).store.tables = store.tables ∨
      ∃ order found payment confirmation,
        Payment.CalledBack call.clock reference text store.tables order found payment confirmation
          (call.run currency store).store.tables := by
  rcases call.run_effect currency store (isServed_of_operation asked) with
    ⟨hsame, -⟩ | ⟨operation, hop, heffect⟩
  · exact .inl hsame
  · obtain rfl : operation = _ := Option.some.inj (hop.symm.trans asked)
    generalize (call.run currency store).events = events at heffect
    cases heffect with
    | placed checksOut => cases checksOut
    | paymentConfirmed called => exact .inr ⟨_, _, _, _, called⟩

namespace Payment

/-- A callback leaves whatever is paid in cash. -/
theorem CalledBack.cash_eq {order : Order} {found payment : Payment} {confirmation : Confirmation}
    (settled : t.Settled)
    (h : CalledBack clock reference text t order found payment confirmation t') :
    t'.payments.filter (fun row => row.method = word PaymentMethod.cod) =
      t.payments.filter fun row => row.method = word PaymentMethod.cod := by
  obtain ⟨rfl, hstored, -, honline⟩ := h.payment_eq settled
  have hwritten (next : Payment) (hid : next.id = payment.id) :
      (writeTo clock.store (some next) t.payments).filter
          (fun row => row.method = word PaymentMethod.cod) =
        t.payments.filter fun row => row.method = word PaymentMethod.cod := by
    refine filter_updateWhere_eq (fun _ => rfl)
      fun row hrow hcash => decide_eq_false fun hsame => ?_
    obtain rfl : row = payment.row :=
      eq_of_key_eq settled.sound.key hrow hstored (hsame.trans hid)
    exact honline (PaymentMethod.word_inj.mp (of_decide_eq_true hcash))
  rw [h.changed]
  cases confirmation with
  | alreadyPaid => rfl
  | paid => exact hwritten _ rfl
  | failed => exact hwritten _ rfl

namespace LedTo

variable {order : Order} {payment : Payment}

/-- A callback writes no other payment and no other order than those that its reference leads to. -/
theorem sameApartFrom {order' : Order} {found payment' : Payment} {confirmation : Confirmation}
    (h : LedTo t reference order payment)
    (called : CalledBack clock reference text t order' found payment' confirmation t') :
    t.SameApartFrom payment.id order.id t' := by
  obtain ⟨rfl, rfl⟩ := h.eq_of_calledBack called
  rw [called.changed]
  cases confirmation with
  | alreadyPaid => exact .refl _ _ _
  | paid =>
    exact ⟨Tables.SameApartFrom.orders_writeTo (settledBy order' payment' clock.wall) _ _,
      Tables.SameApartFrom.payments_writeTo (payment'.confirmed .paid clock.wall) _ _, rfl⟩
  | failed =>
    exact ⟨rfl, Tables.SameApartFrom.payments_writeTo (payment'.confirmed .failed clock.wall) _ _,
      rfl⟩

theorem resolves (currency : String) (h : LedTo store.tables reference order payment) :
    store.Resolves currency reference payment.id order.id := by
  constructor
  case payment_found => exact ⟨payment.row, h.reference_found, rfl, h.order_eq⟩
  case order_found => exact ⟨order.row, h.order_stored, rfl⟩
  case answered =>
    intro call text asked succeeds
    obtain ⟨reply, after, hreturns, -⟩ := (Step.succeeds_iff asked).mp ⟨succeeds, rfl⟩
    obtain ⟨hanswer, -, -⟩ := Step.outcome_of_returns currency asked hreturns
    obtain ⟨found, hconfirm, rfl⟩ := returns_map.mp hreturns
    obtain ⟨_, _, _, confirmation, hcalled, rfl, -⟩ := calledBack_of_returns_confirm hconfirm
    obtain ⟨rfl, rfl⟩ := h.eq_of_calledBack hcalled
    refine ⟨_, hanswer, ?_⟩
    cases confirmation <;> exact ⟨rfl, h.order_eq⟩
  case refused =>
    intro call text hcall herror
    cases hdecided : decideConfirmation order.status payment.status text with
    | ok confirmation =>
      obtain ⟨after, hreturns, -⟩ : ∃ after, Returns (confirm reference text)
          (call.context currency) (call.start store)
          (payment.answered confirmation call.clock) after ∧ _ :=
        h.returns_confirm hcall.2 hdecided
      obtain ⟨hsuccess, -⟩ :=
        Step.run_of_returns currency hcall.1 (returns_map.mpr ⟨_, hreturns, rfl⟩)
      rw [hsuccess] at herror
      cases herror
    | error cause =>
      obtain ⟨message, rfl⟩ := invalid_of_decideConfirmation hdecided
      exact ⟨message, h.run_refused hcall hdecided⟩
  case confined =>
    intro call text asked
    rcases call.calledBack_cases currency store asked with hsame | ⟨_, _, _, _, hcalled⟩
    · rw [hsame]
      exact .refl _ _ _
    · exact h.sameApartFrom hcalled

end LedTo

/-- No two payments have one reference. -/
theorem nodup_references {rows : List PaymentRow} (sound : PaymentRow.Sound rows) :
    (rows.filterMap (·.gatewayId)).Nodup := by
  have hids : rows.Pairwise fun row other => row.id ≠ other.id := List.pairwise_map.mp sound.key
  refine List.pairwise_filterMap.mpr (hids.imp_of_mem fun hrow hother hne => ?_)
  rintro reference hreference _ hsame rfl
  exact hne (sound.reference_unique _ hrow _ hother reference hreference hsame)

section Runs

variable {before after : List Step} {start : Store}

/-- What is on record of a payment stays: its identifier, its order and its reference. -/
theorem recorded_storeAfter (served : ∀ other ∈ before ++ after, other.IsServed)
    (constrained : start.tables.Constrained) (orders : start.tables.orders = []) {row : PaymentRow}
    (stored : row ∈ (storeAfter currency before start).tables.payments) :
    ∃ later ∈ (storeAfter currency (before ++ after) start).tables.payments,
      later.record = row.record := by
  have hbefore : ∀ other ∈ before, other.IsServed := fun other hother =>
    served other (List.mem_append_left _ hother)
  have hafter : ∀ other ∈ after, other.SparesRecords := fun other hother =>
    (served other (List.mem_append_right _ hother)).sparesRecords
  have hlawful := (ready_storeAfter currency hbefore constrained orders).lawful
  rw [storeAfter_append]
  exact (Tables.Records.storeAfter currency hlawful.settled.sound.key
    hafter).payments.exists_record_eq stored

/-- Once a payment is stored, its reference leads to it wherever the run goes on to. -/
theorem resolves_storeAfter (served : ∀ other ∈ before ++ after, other.IsServed)
    (constrained : start.tables.Constrained) (orders : start.tables.orders = []) {payment : Payment}
    (stored : payment.row ∈ (storeAfter currency before start).tables.payments)
    (given : payment.gatewayId = some reference) :
    (storeAfter currency (before ++ after) start).Resolves currency reference payment.id
      payment.orderId := by
  obtain ⟨row, hrow, hrecord⟩ := recorded_storeAfter served constrained orders stored
  have hready : (storeAfter currency (before ++ after) start).tables.Ready :=
    ready_storeAfter currency served constrained orders
  obtain ⟨purchase, later, rfl, hpayment, hpurchase⟩ :=
    Purchase.StoredIn.exists_of_mem_payments hready.lawful hrow
  obtain ⟨-, hsame⟩ := hpurchase.mem_payments.mp hpayment
  have hid : later.id = payment.id := congrArg (·.id) hrecord
  have horder : later.orderId = payment.orderId := congrArg (·.orderId) hrecord
  have hreference : later.gatewayId = payment.gatewayId := congrArg (·.gatewayId) hrecord
  have hledTo : LedTo (storeAfter currency (before ++ after) start).tables reference purchase.order
      later :=
    .of_storeAfter served constrained orders hrow (hreference.trans given) hpurchase.order_mem hsame
  have hresolves := hledTo.resolves currency
  rwa [hid, ← hsame, horder] at hresolves

/-- The reference that comes with an intent leads to its payment. -/
theorem resolves_of_createIntent {step : Step} {user : UserId} {order : OrderId}
    {method : PaymentMethod} {secret : String} {intent : PaymentIntent} {p' : Progress}
    (served : ∀ other ∈ before ++ step :: after, other.IsServed)
    (constrained : start.tables.Constrained) (orders : start.tables.orders = [])
    (created : Returns (createIntent user order method) (step.context currency)
      (step.start (storeAfter currency before start)) intent p')
    (left : p'.store = (step.run currency (storeAfter currency before start)).store)
    (given : intent.clientSecret = some secret) :
    (storeAfter currency (before ++ step :: after) start).Resolves currency secret intent.payment.id
      order := by
  obtain ⟨_, hopened, hsecret, -⟩ := opened_of_returns_createIntent created
  obtain ⟨hstored, howner⟩ := hopened.mem
  have hmade : intent.payment.row ∈
      (storeAfter currency (before ++ [step]) start).tables.payments := by
    rw [storeAfter_snoc, ← left]
    exact hstored
  rw [List.append_cons] at served ⊢
  rw [← howner]
  exact resolves_storeAfter served constrained orders hmade (hsecret.symm.trans given)

end Runs

end Payment

/-- A gateway reference identifies its payment for ever. Only cash on delivery has none, and a
reference tells the method and the identifier that it was made of. Wherever a run has come to that
began without orders, every payment has the reference of its method and its identifier, no two
payments have the same one, and no callback, with whatever reference, changes a payment in cash. The
secret that an intent was answered with leads every later callback to the payment of the intent and
to its order, and to nothing else in the store. -/
theorem references_identify (currency : String) (steps : List Step) (start : Store)
    (served : ∀ step ∈ steps, step.IsServed) (constrained : start.tables.Constrained)
    (orders : start.tables.orders = []) :
    (∀ method id, gatewayReference method id = none ↔ method = .cod) ∧
    (∀ method method' id id' reference, gatewayReference method id = some reference →
      gatewayReference method' id' = some reference → method = method' ∧ id = id') ∧
    (∀ row ∈ (storeAfter currency steps start).tables.payments, ∃ payment : Payment,
      row = payment.row ∧ payment.gatewayId = gatewayReference payment.method payment.id) ∧
    ((storeAfter currency steps start).tables.payments.filterMap (·.gatewayId)).Nodup ∧
    (∀ (call : Step) (reference text : String),
      call.operation? = some (.confirmPayment reference text) →
      (call.run currency (storeAfter currency steps start)).store.tables.payments.filter
          (fun row => row.method = word PaymentMethod.cod) =
        (storeAfter currency steps start).tables.payments.filter
          fun row => row.method = word PaymentMethod.cod) ∧
    ∀ (before after : List Step) (step : Step) (user : UserId) (order : OrderId)
      (method : PaymentMethod), steps = before ++ step :: after →
      step.operation? = some (.createIntent user order method) →
      (step.run currency (storeAfter currency before start)).answer.isError = false →
      ∃ intent : PaymentIntent,
        (step.run currency (storeAfter currency before start)).answer =
          step.answerOf (.createIntent user order method) (.ok (.paymentIntent intent)) ∧
        intent.clientSecret = gatewayReference method intent.payment.id ∧
        ∀ secret, intent.clientSecret = some secret →
          (storeAfter currency steps start).Resolves currency secret intent.payment.id order := by
  have hsettled := (ready_storeAfter currency served constrained orders).lawful.settled
  refine ⟨fun _ _ => gatewayReference_eq_none, fun _ _ _ _ _ => gatewayReference_inj, ?_,
    Payment.nodup_references hsettled.sound, ?_, ?_⟩
  · intro row hrow
    obtain ⟨payment, rfl⟩ := hsettled.sound.read row hrow
    exact ⟨payment, rfl, referenced_storeAfter served orders (constrained.orderItems_eq_nil orders)
      (constrained.payments_eq_nil orders) payment hrow⟩
  · intro call reference text asked
    rcases call.calledBack_cases currency _ asked with hsame | ⟨_, _, _, _, hcalled⟩
    · rw [hsame]
    · exact hcalled.cash_eq hsettled
  · rintro before after step user order method rfl asked succeeds
    obtain ⟨reply, p', hreturns, hleft⟩ := (Step.succeeds_iff asked).mp ⟨succeeds, rfl⟩
    obtain ⟨hanswer, -, -⟩ := Step.outcome_of_returns currency asked hreturns
    obtain ⟨intent, hcreated, rfl⟩ := returns_map.mp hreturns
    refine ⟨intent, hanswer, ?_, fun secret given =>
      Payment.resolves_of_createIntent served constrained orders hcreated hleft given⟩
    obtain ⟨_, hopened, hsecret, -⟩ := Payment.opened_of_returns_createIntent hcreated
    rw [hsecret, hopened.payment_eq]
    rfl

/-- An order of which the first intent fails before its reference is written. -/
def Step.intentLost : List Step :=
  [ofCall (.placeDirect 7 6 .razorpay [⟨3, 2⟩]),
    { ofCall (.createIntent 7 1 .razorpay) with fault := some ⟨.update, .payments, 1⟩ }]

/-- Another order, to be paid in cash. -/
def Step.cashOrder : List Step :=
  [ofCall (.placeDirect 7 6 .cod [⟨4, 1⟩]), ofCall (.createIntent 7 2 .cod)]

/-- The secret of the second intent still leads to its payment once another order is paid in
cash. -/
theorem references_besideCash :
    ((storeAfter "INR" (Step.intentLost ++ Step.ofCall (.createIntent 7 1 .razorpay) ::
        Step.cashOrder) .stocked).tables.payments.map (·.method)) = ["razorpay", "cod"] ∧
      ∃ (intent : PaymentIntent) (secret : String),
        ((Step.ofCall (.createIntent 7 1 .razorpay)).run "INR"
          (storeAfter "INR" Step.intentLost .stocked)).answer =
            .reply (.ok (.paymentIntent intent)) ∧
        intent.clientSecret = some secret ∧
        (storeAfter "INR" (Step.intentLost ++ Step.ofCall (.createIntent 7 1 .razorpay) ::
          Step.cashOrder) .stocked).Resolves "INR" secret intent.payment.id 1 := by
  have hserved : ∀ step ∈ Step.intentLost ++ Step.ofCall (.createIntent 7 1 .razorpay) ::
      Step.cashOrder, step.IsServed := by
    simp [Step.intentLost, Step.cashOrder, Step.IsServed, Step.ofCall]
  obtain ⟨-, -, -, -, -, hintents⟩ :=
    references_identify "INR" _ .stocked hserved Store.constrained_stocked rfl
  obtain ⟨intent, hanswer, hsecret, hresolves⟩ :=
    hintents Step.intentLost Step.cashOrder _ 7 1 .razorpay rfl rfl (by decide +kernel)
  exact ⟨by decide +kernel, intent, _, hanswer, hsecret, hresolves _ hsecret⟩

end Storefront
