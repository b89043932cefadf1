import Storefront.Proofs.Order.Coherence
import Storefront.Proofs.Payment.Rows

/-!
Orders and their payments. A payment that is paid while its order is on its way went through a
gateway, and its order says so; hence a cancellation, which goes by what the order says, gives the
money back. The payment of a cancelled order is settled, one way or another.
-/

namespace Storefront

/-- What the states of a payment and of its order have to do with each other. -/
structure Payment.Agrees (payment : Payment) (order : Order) : Prop where
  online : payment.status = .paid → order.status ≠ .delivered → order.paymentMethod ≠ .cod
  called_off : order.status = .cancelled → payment.status.isUnsettled = false

/-- The payments agree with their orders. -/
structure Tables.Settled (t : Tables) : Prop where
  sound : PaymentRow.Sound t.payments
  payment_order : ∀ row ∈ t.payments, ∃ order ∈ t.orders, order.id = row.orderId
  agree : ∀ (order : Order) (payment : Payment), order.row ∈ t.orders →
    payment.row ∈ t.payments → payment.orderId = order.id → payment.Agrees order

/-- The order is cancelled and its payment is still paid. -/
def Tables.Outstanding (t : Tables) (id : OrderId) : Prop :=
  ∃ (order : Order) (payment : Payment), order.row ∈ t.orders ∧ payment.row ∈ t.payments ∧
    order.id = id ∧ payment.orderId = id ∧ order.status = .cancelled ∧ payment.status = .paid

/-- The payment neither keeps nor collects money. -/
def Payment.IsClosed (payment : Payment) : Prop :=
  payment.status = .refunded ∨ payment.status = .cancelled

/-- No payment of the order keeps or collects money. -/
def Payment.ClosedIn (id : OrderId) (rows : List PaymentRow) : Prop :=
  ∀ payment : Payment, payment.row ∈ rows → payment.orderId = id → payment.IsClosed

/-- How an amendment treats the payment of its order: it closes it, leaves it as it is, or leaves an
order that is not cancelled. -/
inductive Order.Accounted (order : Order) (change : Order × Option Payment) (t' : Tables) : Prop
  | closed (closed : Payment.ClosedIn order.id t'.payments)
  | kept (unchanged : change.2 = none) (method : change.1.paymentMethod = order.paymentMethod)
      (status : change.1.status = order.status ∨
        change.1.status ≠ .cancelled ∧ order.status ≠ .delivered)
  | delivered (status : change.1.status = .delivered)
  | collected (status : change.1.status ≠ .cancelled) (online : change.1.paymentMethod ≠ .cod)

namespace Payment

variable {id : OrderId} {now : Instant} {rows : List PaymentRow} {payment next : Payment}
  {payment? next? : Option Payment}

theorem IsClosed.ne_paid (h : payment.IsClosed) : payment.status ≠ .paid := by
  intro hpaid
  rcases h with hstatus | hstatus
  · cases hstatus.symm.trans hpaid
  · cases hstatus.symm.trans hpaid

theorem ClosedIn.not_outstanding {t : Tables} (h : ClosedIn id t.payments) : ¬t.Outstanding id := by
  rintro ⟨order, payment, -, hpayment, -, howner, -, hpaid⟩
  exact (h payment hpayment howner).ne_paid hpaid

theorem IsClosed.agrees (h : payment.IsClosed) (order : Order) : payment.Agrees order := by
  refine ⟨fun hpaid => absurd hpaid h.ne_paid, fun _ => ?_⟩
  rcases h with hstatus | hstatus
  · rw [hstatus]
    rfl
  · rw [hstatus]
    rfl

theorem closedIn_of_found (sound : PaymentRow.Sound rows) (found : FoundIn id payment? rows)
    (h : ∀ payment, payment? = some payment → payment.IsClosed) : ClosedIn id rows := by
  intro payment hpayment horder
  have hsame := found.eq_of_mem sound hpayment horder
  obtain ⟨other, hother, hrow⟩ := Option.map_eq_some_iff.mp hsame
  obtain rfl := row_injective hrow
  exact h other hother

theorem closedIn_writeTo (sound : PaymentRow.Sound rows) (follows : FollowsIn id rows (some next))
    (h : next.IsClosed) : ClosedIn id (writeTo now (some next) rows) := by
  intro payment hpayment horder
  rcases mem_writeTo sound follows hpayment with ⟨-, hnone | hother⟩ | ⟨other, hother, hrow⟩
  · cases hnone
  · exact absurd horder hother
  · cases hother
    rw [row_injective hrow]
    exact h

/-- A payment from which no money came is closed when it is called off. -/
theorem closedIn_calledOff (now : Instant) (sound : PaymentRow.Sound rows)
    (found : FoundIn id payment? rows)
    (unpaid : ∀ payment, payment? = some payment → payment.status ≠ .paid) :
    FollowsIn id rows (calledOff payment?) ∧
      ClosedIn id (writeTo now (calledOff payment?) rows) := by
  cases payment? with
  | none => exact ⟨followsIn_none, closedIn_of_found sound found (by rintro _ ⟨⟩)⟩
  | some payment =>
    have hunpaid := unpaid payment rfl
    by_cases hopen : payment.status.isUnsettled
    · have hcalled : calledOff (some payment) = some { payment with status := .cancelled } := by
        simp [calledOff, Option.filter, hopen]
      have hfollows := found.followsIn (follows_of_found sound found .cancelled payment.paidAt)
      rw [hcalled]
      exact ⟨hfollows, closedIn_writeTo sound hfollows (.inr rfl)⟩
    · have hcalled : calledOff (some payment) = none := by
        simp [calledOff, Option.filter, hopen]
      rw [hcalled]
      refine ⟨followsIn_none, closedIn_of_found sound found ?_⟩
      rintro _ ⟨⟩
      cases hstatus : payment.status with
      | paid => exact absurd hstatus hunpaid
      | refunded => exact .inl hstatus
      | cancelled => exact .inr hstatus
      | _ =>
        rw [hstatus] at hopen
        exact absurd rfl hopen

theorem closedIn_refunded (now : Instant) (sound : PaymentRow.Sound rows)
    (found : FoundIn id (some payment) rows) :
    FollowsIn id rows (some { payment with status := .refunded }) ∧
      ClosedIn id (writeTo now (some { payment with status := .refunded }) rows) := by
  have hfollows := found.followsIn (follows_of_found sound found .refunded payment.paidAt)
  exact ⟨hfollows, closedIn_writeTo sound hfollows (.inl rfl)⟩

/-- Where no refund is due nothing was paid, if what is paid went through a gateway. -/
theorem ne_paid_of_not_refundDue {order : Order} (h : ¬order.refundDue payment?)
    (online : ∀ payment, payment? = some payment → payment.status = .paid →
      order.paymentMethod ≠ .cod) :
    ∀ payment, payment? = some payment → payment.status ≠ .paid := by
  rintro payment rfl hpaid
  apply h
  rw [Order.refundDue, Option.map_some, hpaid]
  cases hmethod : order.paymentMethod with
  | cod => exact absurd hmethod (online payment rfl hpaid)
  | _ => rfl

/-- Whatever its payment was, an order of which nothing is left open has none that keeps or collects
money, if a paid one went through a gateway. -/
theorem closedIn_settledOnCancel (now : Instant) (order : Order) (sound : PaymentRow.Sound rows)
    (found : FoundIn id payment? rows)
    (online : ∀ payment, payment? = some payment → payment.status = .paid →
      order.paymentMethod ≠ .cod) :
    FollowsIn id rows (order.settledOnCancel payment?).2 ∧
      ClosedIn id (writeTo now (order.settledOnCancel payment?).2 rows) := by
  unfold Order.settledOnCancel
  by_cases hdue : order.refundDue payment?
  · obtain ⟨-, paid, rfl, -⟩ := Order.exists_paid_of_refundDue hdue
    rw [if_pos hdue]
    exact closedIn_refunded now sound found
  · rw [if_neg hdue]
    exact closedIn_calledOff now sound found (ne_paid_of_not_refundDue hdue online)

end Payment
namespace Tables.Settled

variable {clock : Clock} {t t' : Tables} {order : Order} {items : List OrderItem}
  {change : Order × Option Payment}

theorem of_empty (h : t.payments = []) : t.Settled := by
  refine ⟨?_, ?_, ?_⟩
  · rw [h]
    constructor <;> simp
  · simp [h]
  · simp [h]

theorem congr (h : t.Settled) (horders : t'.orders = t.orders)
    (hpayments : t'.payments = t.payments) : t'.Settled := by
  refine ⟨?_, ?_, ?_⟩
  · rw [hpayments]
    exact h.sound
  · rw [horders, hpayments]
    exact h.payment_order
  · rw [horders, hpayments]
    exact h.agree

/-- A payment that was found for an order agrees with it. -/
theorem online (settled : t.Settled) {payment? : Option Payment} (horder : order.row ∈ t.orders)
    (found : Payment.FoundIn order.id payment? t.payments) (hstatus : order.status ≠ .delivered) :
    ∀ payment, payment? = some payment → payment.status = .paid → order.paymentMethod ≠ .cod := by
  rintro payment rfl hpaid
  exact (settled.agree order payment horder found.mem.1 found.mem.2).online hpaid hstatus

/-- Once an order is amended, its payment agrees with it. -/
theorem agrees_of_accounted (settled : t.Settled) (h : Order.Amended clock t order items change t')
    (accounted : order.Accounted change t') {payment : Payment}
    (hpayment : payment.row ∈ t'.payments)
    (horder : payment.orderId = order.id) : payment.Agrees change.1 := by
  cases accounted with
  | closed closed => exact (closed payment hpayment horder).agrees change.1
  | kept unchanged method status =>
    rw [h.payments_eq, unchanged] at hpayment
    obtain ⟨hstored, -⟩ := mem_of_find?_key h.order_found
    obtain ⟨honline, hcalled⟩ := settled.agree order payment hstored hpayment horder
    constructor
    · intro hpaid hdelivered
      rw [method]
      rcases status with hsame | ⟨-, hopen⟩
      · exact honline hpaid (hsame ▸ hdelivered)
      · exact honline hpaid hopen
    · intro hcancelled
      rcases status with hsame | ⟨hopen, -⟩
      · exact hcalled (hsame ▸ hcancelled)
      · exact absurd hcancelled hopen
  | delivered status =>
    refine ⟨fun _ hdelivered => absurd status hdelivered, fun hcancelled => ?_⟩
    rw [status] at hcancelled
    cases hcancelled
  | collected status online => exact ⟨fun _ _ => online, fun hcancelled => absurd hcancelled status⟩

theorem amended (coherent : t.Coherent) (settled : t.Settled)
    (h : Order.Amended clock t order items change t')
    (follows : Payment.FollowsIn order.id t.payments change.2)
    (agrees : ∀ payment : Payment, payment.row ∈ t'.payments → payment.orderId = order.id →
      payment.Agrees change.1) : t'.Settled := by
  have hfixed : change.1.id = order.id := Order.id_of_fixed h.fixed
  have hownerIds : t'.payments.map (·.orderId) = t.payments.map (·.orderId) := by
    rw [h.payments_eq]
    exact Payment.map_writeTo fun _ _ => rfl
  constructor
  · rw [h.payments_eq]
    exact settled.sound.writeTo follows
  · intro row hrow
    have hmem : row.orderId ∈ t.payments.map (·.orderId) :=
      hownerIds ▸ List.mem_map_of_mem hrow
    obtain ⟨old, hold, hsame⟩ := List.mem_map.mp hmem
    obtain ⟨owner, howner, hid⟩ := settled.payment_order old hold
    have hmem' : owner.id ∈ t'.orders.map (·.id) := h.orderIds_eq ▸ List.mem_map_of_mem howner
    obtain ⟨owner', howner', hid'⟩ := List.mem_map.mp hmem'
    exact ⟨owner', howner', hid'.trans (hid.trans hsame)⟩
  · intro other payment hother hpayment howner
    rcases h.row_eq coherent hother with hwritten | ⟨hold, hid⟩
    · obtain rfl := Order.row_injective hwritten
      obtain ⟨honline, hcalled⟩ := agrees payment hpayment (howner.trans hfixed)
      exact ⟨honline, hcalled⟩
    · rw [h.payments_eq] at hpayment
      have hother : payment.orderId ≠ order.id := fun hsame => hid (howner.symm.trans hsame)
      have hstored := Payment.mem_of_mem_writeTo settled.sound follows hpayment hother
      exact settled.agree other payment hold hstored howner

/-- An amendment that accounts for the payment of its order keeps payments in agreement. -/
theorem accounted (coherent : t.Coherent) (settled : t.Settled)
    (h : Order.Amended clock t order items change t')
    (hchange : Payment.FollowsIn order.id t.payments change.2 ∧ order.Accounted change t') :
    t'.Settled :=
  settled.amended coherent h hchange.1 fun _ => settled.agrees_of_accounted h hchange.2

/-- What is still paid of another cancelled order was so before an amendment. -/
theorem outstanding_of_ne (coherent : t.Coherent) (settled : t.Settled)
    (h : Order.Amended clock t order items change t')
    (follows : Payment.FollowsIn order.id t.payments change.2) {id : OrderId} (hne : id ≠ order.id)
    (hafter : t'.Outstanding id) : t.Outstanding id := by
  obtain ⟨other, payment, hother, hpayment, hid, howner, hcancelled, hpaid⟩ := hafter
  rcases h.row_eq coherent hother with hwritten | ⟨hold, -⟩
  · have hfixed : change.1.id = order.id := Order.id_of_fixed h.fixed
    obtain rfl := Order.row_injective hwritten
    exact absurd (hid.symm.trans hfixed) hne
  · rw [h.payments_eq] at hpayment
    have hstored := Payment.mem_of_mem_writeTo settled.sound follows hpayment
      fun hsame => hne (howner.symm.trans hsame)
    exact ⟨other, payment, hold, hstored, hid, howner, hcancelled, hpaid⟩

/-- What is still paid of a cancelled order was so before an amendment that accounts for it. -/
theorem outstanding_of_accounted (coherent : t.Coherent) (settled : t.Settled)
    (h : Order.Amended clock t order items change t')
    (hchange : Payment.FollowsIn order.id t.payments change.2 ∧ order.Accounted change t')
    {id : OrderId} (hafter : t'.Outstanding id) : t.Outstanding id := by
  obtain ⟨follows, accounted⟩ := hchange
  by_cases hne : id = order.id
  · subst hne
    obtain ⟨other, payment, hother, hpayment, hid, howner, hcancelled, hpaid⟩ := hafter
    have hwritten : other = change.1.stamp clock.store := by
      rcases h.row_eq coherent hother with hwritten | ⟨-, hne⟩
      · exact Order.row_injective hwritten
      · exact absurd hid hne
    subst hwritten
    change change.1.status = .cancelled at hcancelled
    cases accounted with
    | closed closed => exact absurd hpaid (closed payment hpayment howner).ne_paid
    | kept unchanged method status =>
      rw [h.payments_eq, unchanged] at hpayment
      obtain ⟨hstored, -⟩ := mem_of_find?_key h.order_found
      rcases status with hsame | ⟨hopen, -⟩
      · exact ⟨order, payment, hstored, hpayment, rfl, howner, hsame.symm.trans hcancelled, hpaid⟩
      · exact absurd hcancelled hopen
    | delivered status =>
      rw [status] at hcancelled
      cases hcancelled
    | collected status online => exact absurd hcancelled status
  · exact outstanding_of_ne coherent settled h follows hne hafter

end Tables.Settled

/-! How the amendments of the operations treat payments. -/

namespace Order

variable {clock : Clock} {t t' : Tables} {id : OrderId} {order : Order} {items : List OrderItem}
  {payment : Option Payment}

theorem ItemCancelled.accounted {user : UserId} {itemId : ItemId} {reason : String}
    {item : OrderItem} (settled : t.Settled)
    (h : ItemCancelled clock user id itemId reason t order item items payment t') :
    Payment.FollowsIn order.id t.payments (order.lessItem items payment).2 ∧
      order.Accounted (order.lessItem items payment) t' := by
  have hpayments := h.amended.payments_eq
  obtain rfl := id_of_found h.order_found
  unfold lessItem at hpayments ⊢
  by_cases hall : allCancelled items
  · have hfound := h.payment_found hall
    have honline := settled.online (mem_of_find?_key h.order_found).1 hfound h.not_delivered
    rw [if_pos hall] at hpayments ⊢
    obtain ⟨hfollows, hclosed⟩ := Payment.closedIn_settledOnCancel clock.store
      { order with finalTotal := openTotal items, status := .cancelled }
        settled.sound hfound honline
    rw [← hpayments] at hclosed
    exact ⟨hfollows, .closed hclosed⟩
  · rw [if_neg hall]
    exact ⟨Payment.followsIn_none, .kept rfl rfl (.inl rfl)⟩

theorem CalledOff.accounted {user : UserId} (coherent : t.Coherent) (settled : t.Settled)
    (h : CalledOff clock user id t order items payment t') (hdue : ¬order.refundDue payment) :
    Payment.FollowsIn order.id t.payments (order.calledOff payment).2 ∧
      order.Accounted (order.calledOff payment) t' := by
  have hpayments := (h.amended coherent).payments_eq
  obtain rfl := id_of_found h.order_found
  have hopen : order.status ≠ .delivered := by
    rw [h.pending]
    decide
  have honline := settled.online (mem_of_find?_key h.order_found).1 h.payment_found hopen
  unfold calledOff at hpayments ⊢
  rw [if_neg hdue] at hpayments ⊢
  obtain ⟨hfollows, hclosed⟩ := Payment.closedIn_calledOff clock.store settled.sound h.payment_found
    (Payment.ne_paid_of_not_refundDue hdue honline)
  rw [← hpayments] at hclosed
  exact ⟨hfollows, .closed hclosed⟩

theorem Moved.accounted {next : OrderStatus} (coherent : t.Coherent) (settled : t.Settled)
    (h : Moved clock id next t order items payment t') :
    Payment.FollowsIn order.id t.payments (order.moved next clock.wall payment).2 ∧
      order.Accounted (order.moved next clock.wall payment) t' := by
  have hpayments := (h.amended coherent).payments_eq
  obtain rfl := id_of_found h.order_found
  have hopen : order.status ≠ .delivered := by
    intro hdelivered
    have hallowed := h.allowed
    rw [hdelivered] at hallowed
    exact absurd hallowed (by simp [OrderStatus.canBecome])
  have hkept (status : OrderStatus) (hstatus : status ≠ .cancelled) :
      Payment.FollowsIn order.id t.payments none ∧
        order.Accounted ({ order with status }, none) t' :=
    ⟨Payment.followsIn_none, .kept rfl rfl (.inr ⟨hstatus, hopen⟩)⟩
  cases next with
  | cancelled =>
    have honline := settled.online (mem_of_find?_key h.order_found).1 h.payment_found hopen
    obtain ⟨hfollows, hclosed⟩ := Payment.closedIn_settledOnCancel clock.store
      { order with finalTotal := 0 } settled.sound h.payment_found honline
    refine ⟨hfollows, .closed ?_⟩
    rw [hpayments]
    exact hclosed
  | delivered =>
    refine ⟨?_, .delivered rfl⟩
    intro next hnext
    obtain ⟨paid, hpaid, rfl⟩ := Option.map_eq_some_iff.mp hnext
    obtain ⟨rfl, -⟩ := Option.filter_eq_some_iff.mp hpaid
    have hfound := h.payment_found
    exact ⟨paid, hfound.mem.1, hfound.mem.2, Payment.follows_of_found settled.sound hfound _ _⟩
  | pending => exact hkept .pending (by decide)
  | confirmed => exact hkept .confirmed (by decide)
  | shipped => exact hkept .shipped (by decide)
  | partiallyCancelled => exact hkept .partiallyCancelled (by decide)

end Order

namespace Payment.Refunded

variable {clock : Clock} {id : OrderId} {t t' : Tables} {order : Order} {payment : Payment}
  {stored : PaymentRow}

theorem closedIn (settled : t.Settled) (h : Refunded clock id t order payment stored t') :
    FollowsIn id t.payments (some { payment with status := .refunded }) ∧
      ClosedIn id t'.payments := by
  rw [h.amended.payments_eq]
  exact closedIn_refunded clock.store settled.sound h.payment_found

theorem accounted (settled : t.Settled) (h : Refunded clock id t order payment stored t') :
    FollowsIn order.id t.payments (some { payment with status := .refunded }) ∧
      order.Accounted ({ order with paymentStatus := .refunded },
        some { payment with status := .refunded }) t' := by
  obtain ⟨hfollows, hclosed⟩ := h.closedIn settled
  rw [← Order.id_of_found h.order_found] at hfollows hclosed
  exact ⟨hfollows, .closed hclosed⟩

end Payment.Refunded

namespace Payment

/-- What is decided against is told what is wrong with the payment or with the report. -/
theorem invalid_of_decideConfirmation {order : OrderStatus} {current : PaymentStatus}
    {reported : String} {cause : Error}
    (h : decideConfirmation order current reported = .error cause) :
    ∃ message, cause = .invalidPaymentStatus message := by
  revert h
  unfold decideConfirmation
  repeat' split
  all_goals
    intro h
    cases h
  all_goals exact ⟨_, rfl⟩

/-- A callback changes a payment only if it is unsettled and its order is not cancelled. -/
theorem of_decideConfirmation {order : OrderStatus} {current : PaymentStatus} {reported : String}
    {confirmation : Confirmation} (h : decideConfirmation order current reported = .ok confirmation)
    (changes : confirmation ≠ .alreadyPaid) :
    order ≠ .cancelled ∧ current.isUnsettled := by
  cases current with
  | paid => exact absurd (Except.ok.inj h).symm changes
  | refunded => cases h
  | cancelled => cases h
  | pending =>
    by_cases hcancelled : order = .cancelled
    · simp [decideConfirmation, hcancelled] at h
    · exact ⟨hcancelled, rfl⟩
  | failed =>
    by_cases hcancelled : order = .cancelled
    · simp [decideConfirmation, hcancelled] at h
    · exact ⟨hcancelled, rfl⟩

namespace CalledBack

variable {clock : Clock} {reference reported : String} {t t' : Tables} {order : Order}
  {found payment : Payment} {confirmation : Confirmation}

/-- The payment of a callback is the one with its reference, and goes through a gateway. -/
theorem payment_eq (settled : t.Settled)
    (h : CalledBack clock reference reported t order found payment confirmation t') :
    payment = found ∧ found.row ∈ t.payments ∧ found.orderId = order.id ∧ found.method ≠ .cod := by
  have hfound := List.mem_of_find?_eq_some h.reference_found
  have hmatch := List.find?_some h.reference_found
  have hreference : found.gatewayId = some reference := of_decide_eq_true hmatch
  obtain ⟨hpayment, hid⟩ := mem_of_find?_key h.payment_found
  have honline := settled.sound.online found.row hfound (by simp [row, hreference])
  refine ⟨?_, hfound, (Order.id_of_found h.order_found).symm, ?_⟩
  · exact row_injective (eq_of_key_eq settled.sound.key hpayment hfound hid)
  · exact fun hcod => honline (congrArg word hcod)

theorem accounted (settled : t.Settled)
    (h : CalledBack clock reference reported t order found payment .paid t') :
    FollowsIn order.id t.payments (some (payment.confirmed .paid clock.wall)) ∧
      order.Accounted (settledBy order payment clock.wall,
        some (payment.confirmed .paid clock.wall)) t' := by
  obtain ⟨rfl, hstored, howner, honline⟩ := h.payment_eq settled
  obtain ⟨hopen, -⟩ := of_decideConfirmation h.decided (by decide)
  refine ⟨?_, .collected hopen honline⟩
  rintro _ ⟨⟩
  exact ⟨payment, hstored, howner, rfl, rfl, rfl⟩

/-- A callback that reports a failure writes the payment of an order that is not cancelled. -/
theorem failed_eq (settled : t.Settled)
    (h : CalledBack clock reference reported t order found payment .failed t') :
    FollowsIn order.id t.payments (some (payment.confirmed .failed clock.wall)) ∧
      order.status ≠ .cancelled ∧
      t' = { t with
        payments := writeTo clock.store (some (payment.confirmed .failed clock.wall))
          t.payments } := by
  obtain ⟨rfl, hstored, howner, -⟩ := h.payment_eq settled
  refine ⟨?_, (of_decideConfirmation h.decided (by decide)).1, h.changed⟩
  rintro _ ⟨⟩
  exact ⟨payment, hstored, howner, rfl, rfl, rfl⟩

/-- A payment that failed still agrees with its order. -/
theorem settled_failed (coherent : t.Coherent) (settled : t.Settled)
    (h : CalledBack clock reference reported t order found payment .failed t') : t'.Settled := by
  obtain ⟨hfollows, hopen, hchanged⟩ := h.failed_eq settled
  obtain ⟨rfl, -⟩ := h.payment_eq settled
  rw [hchanged]
  constructor
  · exact settled.sound.writeTo hfollows
  · intro row hrow
    have hmem : row.orderId ∈ (writeTo clock.store (some (payment.confirmed .failed clock.wall))
        t.payments).map (·.orderId) := List.mem_map_of_mem hrow
    rw [map_writeTo fun _ _ => rfl] at hmem
    obtain ⟨old, hold, hsame⟩ := List.mem_map.mp hmem
    rw [← hsame]
    exact settled.payment_order old hold
  · intro other paid hother hpaid hpaidOwner
    rcases mem_writeTo settled.sound hfollows hpaid with ⟨hold, -⟩ | ⟨next, hnext, heq⟩
    · exact settled.agree other paid hother hold hpaidOwner
    · cases hnext
      obtain rfl := row_injective heq
      have hsame : other = order := by
        obtain ⟨hmem, hid⟩ := mem_of_find?_key h.order_found
        refine Order.row_injective (eq_of_key_eq coherent.orders_key hother hmem ?_)
        exact hpaidOwner.symm.trans hid.symm
      rw [hsame]
      refine ⟨fun hpaid => ?_, fun hcancelled => absurd hcancelled hopen⟩
      cases hpaid

end CalledBack
end Payment
end Storefront
