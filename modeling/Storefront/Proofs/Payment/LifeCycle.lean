import Storefront.Proofs.Purchase.Evolution

/-!
The life of a payment. Once an intent has created it, it stays the payment of its order; its state
only moves on, so that it takes each state once at most, and what it says of the time it was paid at
and of its failure goes by its state.
-/

namespace Storefront

namespace PaymentStatus

/-- The states that follow one another in the life of a payment. -/
def canBecome : PaymentStatus → PaymentStatus → Bool
  | .pending, .paid => true
  | .pending, .failed => true
  | .pending, .cancelled => true
  | .failed, .paid => true
  | .failed, .cancelled => true
  | .paid, .refunded => true
  | _, _ => false

/-- A payment in the one state may come to the other, step by step. -/
def Leads : PaymentStatus → PaymentStatus → Prop :=
  Relation.ReflTransGen fun status next => status.canBecome next

/-- How far a payment is on in its life. -/
def stage : PaymentStatus → Nat
  | .pending => 0
  | .failed => 1
  | .paid => 2
  | .cancelled => 2
  | .refunded => 3

theorem stage_lt {status next : PaymentStatus} (h : status.canBecome next) :
    status.stage < next.stage := by
  revert h
  cases status <;> cases next <;> decide

end PaymentStatus

/-- What may become of a payment in one step. -/
inductive Payment.Move (clock : Clock) (payment : Payment) : Payment → Prop
  | kept : Move clock payment payment
  | confirmed (unsettled : payment.status.isUnsettled) :
      Move clock payment ((payment.confirmed .paid clock.wall).stamp clock.store)
  | failed (unsettled : payment.status.isUnsettled) :
      Move clock payment ((payment.confirmed .failed clock.wall).stamp clock.store)
  | collected (paidAt : Instant) (pending : payment.status = .pending) :
      Move clock payment
        (stamp { payment with status := .paid, paidAt := some paidAt } clock.store)
  | calledOff (unsettled : payment.status.isUnsettled) :
      Move clock payment (stamp { payment with status := .cancelled } clock.store)
  | refunded (paid : payment.status = .paid) :
      Move clock payment (payment.giveBackAt clock.store)

/-- What a payment says of the time it was paid at and of its failure goes by its state. -/
structure Payment.Marked (payment : Payment) : Prop where
  paidAt_iff : payment.paidAt.isSome ↔ payment.status = .paid ∨ payment.status = .refunded
  of_failed : payment.status = .failed → payment.failureReason.isSome
  of_reason : payment.failureReason.isSome →
    payment.status = .failed ∨ payment.status = .cancelled

/-- The one payment is the other at a later time. -/
structure Payment.Continues (payment later : Payment) : Prop where
  fixed : later.fixed = payment.fixed
  leads : payment.status.Leads later.status
  paidAt : payment.paidAt.isSome → later.paidAt = payment.paidAt

namespace PaymentStatus.Leads

variable {status next : PaymentStatus}

theorem eq_or_stage_lt (h : status.Leads next) : status = next ∨ status.stage < next.stage := by
  induction h with
  | refl => exact .inl rfl
  | tail hleads hnext ih =>
    right
    have hlast := stage_lt hnext
    rcases ih with rfl | hfirst
    · exact hlast
    · exact hfirst.trans hlast

/-- No state comes back once it is left. -/
theorem antisymm (h : status.Leads next) (back : next.Leads status) : status = next := by
  rcases h.eq_or_stage_lt with heq | hlt
  · exact heq
  · rcases back.eq_or_stage_lt with heq | hgt
    · exact heq.symm
    · omega

/-- Nothing follows a state that leads nowhere. -/
theorem eq_of_final (h : status.Leads next) (final : ∀ other, status.canBecome other = false) :
    next = status := by
  refine h.cases_head.elim (fun hsame => hsame.symm) ?_
  rintro ⟨other, hother, -⟩
  simp [final other] at hother

end PaymentStatus.Leads

namespace Payment

variable {clock : Clock} {payment later last : Payment}

namespace Continues

theorem refl (payment : Payment) : payment.Continues payment :=
  ⟨rfl, .refl, fun _ => rfl⟩

theorem trans (h : payment.Continues later) (h' : later.Continues last) :
    payment.Continues last := by
  constructor
  · exact h'.fixed.trans h.fixed
  · exact h.leads.trans h'.leads
  · intro hset
    have hsame := h.paidAt hset
    have hlater : later.paidAt.isSome := by
      rw [hsame]
      exact hset
    exact (h'.paidAt hlater).trans hsame

/-- A payment that is refunded or cancelled stays so. -/
theorem status_eq (h : payment.Continues later)
    (final : payment.status = .refunded ∨ payment.status = .cancelled) :
    later.status = payment.status := by
  apply h.leads.eq_of_final
  rcases final with hstatus | hstatus
  · rw [hstatus]
    exact fun _ => rfl
  · rw [hstatus]
    exact fun _ => rfl

end Continues

namespace Move

theorem of_callOff (payment : Payment) : payment.Move clock (payment.callOff clock.store) := by
  unfold callOff
  split
  next hunsettled => exact .calledOff hunsettled
  next => exact .kept

theorem of_collect (payment : Payment) (paidAt : Instant) :
    payment.Move clock (payment.collect clock.store paidAt) := by
  unfold collect
  split
  next hpending => exact .collected paidAt hpending
  next => exact .kept

/-- A state from which no money has moved yet can still become any of three others. -/
theorem leads_of_unsettled {status next : PaymentStatus} (h : status.isUnsettled)
    (hnext : next = .paid ∨ next = .failed ∨ next = .cancelled) : status.Leads next := by
  by_cases hsame : status = next
  · rw [hsame]
    exact .refl
  · refine .single ?_
    revert h hnext hsame
    cases status <;> cases next <;> simp [PaymentStatus.isUnsettled, PaymentStatus.canBecome]

theorem leads (h : payment.Move clock later) : payment.status.Leads later.status := by
  cases h with
  | kept => exact .refl
  | confirmed unsettled => exact leads_of_unsettled unsettled (.inl rfl)
  | failed unsettled => exact leads_of_unsettled unsettled (.inr (.inl rfl))
  | collected paidAt pending =>
    refine leads_of_unsettled ?_ (.inl rfl)
    rw [pending]
    rfl
  | calledOff unsettled => exact leads_of_unsettled unsettled (.inr (.inr rfl))
  | refunded paid =>
    refine .single ?_
    rw [paid]
    rfl

theorem fixed_eq (h : payment.Move clock later) : later.fixed = payment.fixed := by
  cases h <;> rfl

theorem marked (h : payment.Move clock later) (marked : payment.Marked) : later.Marked := by
  obtain ⟨hpaidAt, hfailed, hreason⟩ := marked
  have hblank (hunsettled : payment.status.isUnsettled) : payment.paidAt.isSome = false := by
    rw [Bool.eq_false_iff]
    intro hset
    rcases hpaidAt.mp hset with hstatus | hstatus
    · simp [hstatus, PaymentStatus.isUnsettled] at hunsettled
    · simp [hstatus, PaymentStatus.isUnsettled] at hunsettled
  cases h with
  | kept => exact ⟨hpaidAt, hfailed, hreason⟩
  | confirmed unsettled => constructor <;> simp [stamp, Payment.confirmed]
  | failed unsettled =>
    have hnone := hblank unsettled
    constructor
    · simpa [stamp, Payment.confirmed] using hnone
    · simp [stamp, Payment.confirmed]
    · simp [stamp, Payment.confirmed]
  | collected paidAt pending =>
    simp only [pending, reduceCtorEq, or_self, imp_false] at hreason
    constructor
    · simp [stamp]
    · simp [stamp]
    · exact fun hset => absurd hset hreason
  | calledOff unsettled =>
    have hnone := hblank unsettled
    constructor
    · simpa [stamp] using hnone
    · simp [stamp]
    · simp [stamp]
  | refunded paid =>
    have hset := hpaidAt.mpr (.inl paid)
    simp only [paid, reduceCtorEq, or_self, imp_false] at hreason
    constructor
    · simpa [giveBackAt, stamp] using hset
    · simp [giveBackAt, stamp]
    · exact fun hset => absurd hset hreason

theorem continues (h : payment.Move clock later) (marked : payment.Marked) :
    payment.Continues later := by
  refine ⟨h.fixed_eq, h.leads, fun hset => ?_⟩
  · -- A payment with a time of payment is paid or refunded, and then it can at most be refunded.
    have hunsettled : payment.status.isUnsettled = false := by
      rcases marked.paidAt_iff.mp hset with hstatus | hstatus
      · rw [hstatus]
        rfl
      · rw [hstatus]
        rfl
    cases h with
    | kept => rfl
    | confirmed unsettled => simp [hunsettled] at unsettled
    | failed unsettled => simp [hunsettled] at unsettled
    | collected paidAt pending => simp [pending, PaymentStatus.isUnsettled] at hunsettled
    | calledOff unsettled => simp [hunsettled] at unsettled
    | refunded paid => rfl

end Move
end Payment

namespace Purchase

variable {clock : Clock} {purchase next : Purchase} {payment : Payment}

/-- A move of a purchase makes a move of its payment. -/
theorem Move.payment_moves (h : purchase.Move clock next)
    (found : purchase.payment = some payment) :
    ∃ later, next.payment = some later ∧ payment.Move clock later := by
  cases h with
  | kept => exact ⟨payment, found, .kept⟩
  | lessened => exact ⟨payment, found, .kept⟩
  | cancelledPaid cancellable withdrawn emptied found' paid =>
    obtain rfl : payment = _ := Option.some.inj (found.symm.trans found')
    exact ⟨_, rfl, .refunded paid⟩
  | cancelledUnpaid => exact ⟨_, congrArg (Option.map _) found, .of_callOff payment⟩
  | refundMissed => exact ⟨payment, found, .kept⟩
  | advanced => exact ⟨payment, found, .kept⟩
  | delivered => exact ⟨_, congrArg (Option.map _) found, .of_collect payment _⟩
  | intentCreated pending unpaid => simp [unpaid] at found
  | confirmed found' uncancelled unsettled =>
    obtain rfl : payment = _ := Option.some.inj (found.symm.trans found')
    exact ⟨_, rfl, .confirmed unsettled⟩
  | failed found' uncancelled unsettled =>
    obtain rfl : payment = _ := Option.some.inj (found.symm.trans found')
    exact ⟨_, rfl, .failed unsettled⟩
  | refunded found' paid =>
    obtain rfl : payment = _ := Option.some.inj (found.symm.trans found')
    exact ⟨_, rfl, .refunded paid⟩

/-- The payment of a purchase that had none is one just created for what the order comes to. -/
theorem Move.opened_of_unpaid (h : purchase.Move clock next) (unpaid : purchase.payment = none)
    (found : next.payment = some payment) :
    next.order = purchase.order ∧ ∃ currency id method, payment =
      Payment.opened clock currency id purchase.order.id purchase.order.finalTotal method
        (gatewayReference method id) := by
  have hold : purchase.payment ≠ some payment := by simp [unpaid]
  cases h with
  | kept => exact absurd found hold
  | lessened => exact absurd found hold
  | cancelledPaid cancellable withdrawn emptied found' => simp [unpaid] at found'
  | cancelledUnpaid => simp [unpaid] at found
  | refundMissed => exact absurd found hold
  | advanced => exact absurd found hold
  | delivered => simp [unpaid] at found
  | intentCreated => exact ⟨rfl, _, _, _, (Option.some.inj found).symm⟩
  | confirmed found' => simp [unpaid] at found'
  | failed found' => simp [unpaid] at found'
  | refunded found' => simp [unpaid] at found'

theorem Move.payment_created (h : purchase.Move clock next) (unpaid : purchase.payment = none)
    (found : next.payment = some payment) : payment.Marked := by
  obtain ⟨-, currency, id, method, rfl⟩ := h.opened_of_unpaid unpaid found
  constructor <;> simp [Payment.opened]

/-- A move keeps what payments say of themselves in line with their states. -/
theorem marked_of_move (marked : ∀ payment, purchase.payment = some payment → payment.Marked)
    (h : purchase.Move clock next) : ∀ payment, next.payment = some payment → payment.Marked := by
  intro later hlater
  cases hpayment : purchase.payment with
  | none => exact h.payment_created hpayment hlater
  | some payment =>
    obtain ⟨other, hother, hmove⟩ := h.payment_moves hpayment
    obtain rfl : later = other := Option.some.inj (hlater.symm.trans hother)
    exact hmove.marked (marked payment hpayment)

/-- A payment goes on while its purchase evolves. -/
theorem Evolves.payment_continues (h : purchase.Evolves next)
    (found : purchase.payment = some payment) (marked : payment.Marked) :
    ∃ later, next.payment = some later ∧ later.Marked ∧ payment.Continues later := by
  induction h with
  | refl => exact ⟨payment, found, marked, .refl payment⟩
  | tail _ hmove ih =>
    obtain ⟨clock, hmove⟩ := hmove
    obtain ⟨middle, hmiddle, hmarked, hcontinues⟩ := ih
    obtain ⟨later, hlater, hlast⟩ := hmove.payment_moves hmiddle
    exact ⟨later, hlater, hlast.marked hmarked, hcontinues.trans (hlast.continues hmarked)⟩

end Purchase

/-- The store holds the payment, and the payment is in the state. -/
def Store.hasPayment (store : Store) (id : Uuid) (status : PaymentStatus) : Bool :=
  store.tables.payments.any fun row => row.id = id && row.status = word status

/-- How often the steps of a run bring the payment into the state. -/
def timesTurned (currency : String) (id : Uuid) (status : PaymentStatus) :
    List Step → Store → Nat
  | [], _ => 0
  | step :: rest, store =>
    let next := (step.run currency store).store
    (if !store.hasPayment id status && next.hasPayment id status then 1 else 0) +
      timesTurned currency id status rest next

/-- The payment is in the state, or it has been and has left it. -/
def Store.HasReached (store : Store) (id : Uuid) (status : PaymentStatus) : Prop :=
  ∃ payment : Payment,
    payment.row ∈ store.tables.payments ∧ payment.id = id ∧ status.Leads payment.status

namespace Store

variable {store : Store} {id : Uuid} {status : PaymentStatus}

theorem hasPayment_iff (lawful : store.tables.Lawful) :
    store.hasPayment id status ↔ ∃ payment : Payment,
      payment.row ∈ store.tables.payments ∧ payment.id = id ∧ payment.status = status := by
  simp only [hasPayment, List.any_eq_true, Bool.and_eq_true, decide_eq_true_eq]
  constructor
  · rintro ⟨row, hrow, hid, hstatus⟩
    obtain ⟨payment, rfl⟩ := lawful.settled.sound.read row hrow
    exact ⟨payment, hrow, hid, PaymentStatus.word_inj.mp hstatus⟩
  · rintro ⟨payment, hrow, hid, hstatus⟩
    exact ⟨payment.row, hrow, hid, congrArg word hstatus⟩

theorem hasReached_of_hasPayment (lawful : store.tables.Lawful) (h : store.hasPayment id status) :
    store.HasReached id status := by
  obtain ⟨payment, hpayment, hid, rfl⟩ := (hasPayment_iff lawful).mp h
  exact ⟨payment, hpayment, hid, .refl⟩

end Store

section Runs

variable {currency : String} {start : Store} {steps : List Step} {id : Uuid}
  {status : PaymentStatus}

/-- What a payment has come to before a step leads to what it comes to by it. -/
theorem Step.payment_leads (currency : String) {step : Step} {store : Store} {payment : Payment}
    (served : step.IsServed) (lawful : store.tables.Lawful)
    (stored : payment.row ∈ store.tables.payments) :
    ∃ later : Payment, later.row ∈ (step.run currency store).store.tables.payments ∧
      later.id = payment.id ∧ payment.status.Leads later.status := by
  obtain ⟨purchase, other, heq, hfound, hpurchase⟩ :=
    Purchase.StoredIn.exists_of_mem_payments lawful stored
  obtain rfl := Payment.row_injective heq
  obtain ⟨next, hnext, hmove⟩ :
      purchase.MovesIn step.clock (step.run currency store).store.tables :=
    hpurchase.movesIn_step served lawful
  obtain ⟨later, hlater, hpayment⟩ := hmove.payment_moves hfound
  refine ⟨later, (hnext.mem_payments.mp hlater).1, ?_, hpayment.leads⟩
  cases hpayment <;> rfl

/-- A state that a payment has reached is not turned to again. -/
theorem timesTurned_eq_zero (served : ∀ step ∈ steps, step.IsServed) (lawful : start.tables.Lawful)
    (h : start.HasReached id status) : timesTurned currency id status steps start = 0 := by
  induction steps generalizing start with
  | nil => rfl
  | cons step rest ih =>
    have hserved := served step List.mem_cons_self
    have hlawful : (step.run currency start).store.tables.Lawful := Step.lawful hserved lawful
    obtain ⟨payment, hpayment, rfl, hreached⟩ := h
    obtain ⟨later, hlater, hid, hleads⟩ := Step.payment_leads currency hserved lawful hpayment
    have hrest := ih (fun other hother => served other (List.mem_cons_of_mem _ hother)) hlawful
      ⟨later, hlater, hid, hreached.trans hleads⟩
    have hturned : ¬(!start.hasPayment payment.id status &&
        (step.run currency start).store.hasPayment payment.id status) := by
      rw [Bool.and_eq_true, Bool.not_eq_true', Bool.eq_false_iff]
      rintro ⟨hbefore, hafter⟩
      obtain ⟨other, hother, hsame, hstatus⟩ := (Store.hasPayment_iff hlawful).mp hafter
      have hone : other = later := Payment.row_injective
        (eq_of_key_eq hlawful.settled.sound.key hother hlater (hsame.trans hid.symm))
      rw [← hone, hstatus] at hleads
      have hcurrent := hleads.antisymm hreached
      exact hbefore ((Store.hasPayment_iff lawful).mpr ⟨payment, hpayment, rfl, hcurrent⟩)
    rw [timesTurned, if_neg hturned, hrest]

/-- A payment takes each state once at most. -/
theorem timesTurned_le_one (served : ∀ step ∈ steps, step.IsServed) (lawful : start.tables.Lawful) :
    timesTurned currency id status steps start ≤ 1 := by
  induction steps generalizing start with
  | nil => simp [timesTurned]
  | cons step rest ih =>
    have hserved := served step List.mem_cons_self
    have hrest : ∀ step ∈ rest, step.IsServed :=
      fun other hother => served other (List.mem_cons_of_mem _ hother)
    have hlawful : (step.run currency start).store.tables.Lawful := Step.lawful hserved lawful
    rw [timesTurned]
    split
    next hturned =>
      obtain ⟨-, hafter⟩ := Bool.and_eq_true_iff.mp hturned
      have hreached := Store.hasReached_of_hasPayment hlawful hafter
      rw [timesTurned_eq_zero hrest hlawful hreached]
    next =>
      have hlater := ih hrest hlawful
      omega

/-- What payments say of themselves goes by their states wherever a run has come to. -/
theorem Purchase.StoredIn.payment_marked (served : ∀ step ∈ steps, step.IsServed)
    (orders : start.tables.orders = []) (items : start.tables.orderItems = [])
    (payments : start.tables.payments = []) {purchase : Purchase} {payment : Payment}
    (h : purchase.StoredIn (storeAfter currency steps start).tables)
    (found : purchase.payment = some payment) : payment.Marked := by
  have hmarked : ∀ payment, purchase.payment = some payment → payment.Marked := by
    refine Purchase.invariant_storeAfter (I := fun purchase =>
      ∀ payment, purchase.payment = some payment → payment.Marked) ?_ ?_
        served orders items payments
      purchase h
    · intro purchase hplaced
      simp [hplaced.no_payment]
    · intro clock purchase next hmarks hmove
      exact Purchase.marked_of_move hmarks hmove
  exact hmarked payment found

/-- A payment in the store goes on over the rest of a run. -/
theorem payment_continues_storeAfter {before after : List Step}
    (served : ∀ step ∈ before ++ after, step.IsServed) (orders : start.tables.orders = [])
    (items : start.tables.orderItems = []) (payments : start.tables.payments = [])
    {row : PaymentRow}
    (stored : row ∈ (storeAfter currency before start).tables.payments) :
    ∃ payment later : Payment, row = payment.row ∧
      later.row ∈ (storeAfter currency (before ++ after) start).tables.payments ∧
        payment.Continues later := by
  have hbefore : ∀ step ∈ before, step.IsServed :=
    fun step hstep => served step (List.mem_append_left _ hstep)
  have hafter : ∀ step ∈ after, step.IsServed :=
    fun step hstep => served step (List.mem_append_right _ hstep)
  have hmiddle : (storeAfter currency before start).tables.Lawful :=
    lawful_storeAfter hbefore (.of_empty orders items payments)
  obtain ⟨purchase, payment, rfl, hfound, hpurchase⟩ :=
    Purchase.StoredIn.exists_of_mem_payments hmiddle stored
  obtain ⟨next, hnext, hevolves⟩ : ∃ next : Purchase,
      next.StoredIn (storeAfter currency after (storeAfter currency before start)).tables ∧
        purchase.Evolves next := hpurchase.evolves hafter hmiddle
  have hmarked := hpurchase.payment_marked hbefore orders items payments hfound
  obtain ⟨later, hlater, -, hcontinues⟩ := hevolves.payment_continues hfound hmarked
  rw [← storeAfter_append] at hnext
  exact ⟨payment, later, rfl, (hnext.mem_payments.mp hlater).1, hcontinues⟩

end Runs

/-- Over a run that began without orders a payment is never removed, and each is the only one of its
order. Its state only moves on, from pending to paid, failed or cancelled, from failed to paid or
cancelled, and from paid to refunded, and so it takes each state once at most. It has a time of
payment if and only if it is paid or refunded, and that time never changes; it says why it failed if
it is failed, and only if it is failed or cancelled. -/
theorem payment_lifeCycle (currency : String) (before after : List Step) (start : Store)
    (served : ∀ step ∈ before ++ after, step.IsServed) (orders : start.tables.orders = [])
    (items : start.tables.orderItems = []) (payments : start.tables.payments = []) :
    ((storeAfter currency (before ++ after) start).tables.payments.map (·.orderId)).Nodup ∧
      ((storeAfter currency (before ++ after) start).tables.payments.map (·.id)).Nodup ∧
      (∀ payment ∈ (storeAfter currency before start).tables.payments,
        ∃ later ∈ (storeAfter currency (before ++ after) start).tables.payments,
          later.id = payment.id ∧ later.orderId = payment.orderId ∧
            (∃ status next : PaymentStatus, payment.status = word status ∧
              later.status = word next ∧ status.Leads next) ∧
            (payment.status = word PaymentStatus.refunded ∨
                payment.status = word PaymentStatus.cancelled → later.status = payment.status) ∧
            (payment.paidAt.isSome → later.paidAt = payment.paidAt)) ∧
      (∀ id status, timesTurned currency id status (before ++ after) start ≤ 1) ∧
      ∀ payment ∈ (storeAfter currency (before ++ after) start).tables.payments,
        (payment.paidAt.isSome ↔ payment.status = word PaymentStatus.paid ∨
            payment.status = word PaymentStatus.refunded) ∧
          (payment.status = word PaymentStatus.failed → payment.failureReason.isSome) ∧
          (payment.failureReason.isSome → payment.status = word PaymentStatus.failed ∨
            payment.status = word PaymentStatus.cancelled) := by
  have hempty : start.tables.Lawful := .of_empty orders items payments
  have hlast : (storeAfter currency (before ++ after) start).tables.Lawful :=
    lawful_storeAfter served hempty
  refine ⟨hlast.settled.sound.one_per_order, hlast.settled.sound.key, ?_, ?_, ?_⟩
  · intro row hrow
    obtain ⟨payment, later, rfl, hlater, hcontinues⟩ :=
      payment_continues_storeAfter served orders items payments hrow
    refine ⟨later.row, hlater, Payment.id_of_fixed hcontinues.fixed,
      Payment.orderId_of_fixed hcontinues.fixed, ?_, fun hfinal => ?_, hcontinues.paidAt⟩
    · exact ⟨payment.status, later.status, rfl, rfl, hcontinues.leads⟩
    · refine congrArg word (hcontinues.status_eq ?_)
      exact hfinal.imp PaymentStatus.word_inj.mp PaymentStatus.word_inj.mp
  · intro id status
    exact timesTurned_le_one served hempty
  · intro row hrow
    obtain ⟨purchase, payment, rfl, hfound, hpurchase⟩ :=
      Purchase.StoredIn.exists_of_mem_payments hlast hrow
    obtain ⟨hpaidAt, hfailed, hreason⟩ :=
      hpurchase.payment_marked served orders items payments hfound
    simp only [Payment.row, PaymentStatus.word_inj]
    exact ⟨hpaidAt, hfailed, hreason⟩

/-- A payment that fails. -/
def Step.failedOnce : List Step :=
  [ofCall (.placeDirect 7 6 .razorpay [⟨3, 2⟩]), ofCall (.createIntent 7 1 .razorpay),
    ofCall (.confirmPayment "razorpay_order_00000000000040008000000000000001" "failed")]

/-- The payment succeeds after all, and is refunded. -/
def Step.paidAfterAll : List Step :=
  [ofCall (.confirmPayment "razorpay_order_00000000000040008000000000000001" "success"),
    ofCall (.refundPayment 1)]

theorem payment_failedOnce :
    (storeAfter "INR" Step.failedOnce .stocked).tables.payments.map (·.status) = ["failed"] ∧
      (storeAfter "INR" (Step.failedOnce ++ Step.paidAfterAll) .stocked).tables.payments.map
        (·.status) = ["refunded"] ∧
      timesTurned "INR" (.numbered 1) .paid (Step.failedOnce ++ Step.paidAfterAll) .stocked = 1 ∧
      ∀ payment ∈ (storeAfter "INR" Step.failedOnce .stocked).tables.payments,
        ∃ later ∈ (storeAfter "INR" (Step.failedOnce ++ Step.paidAfterAll)
          .stocked).tables.payments,
          later.id = payment.id ∧ ∃ status next : PaymentStatus, payment.status = word status ∧
            later.status = word next ∧ status.Leads next := by
  have hserved : ∀ step ∈ Step.failedOnce ++ Step.paidAfterAll, step.IsServed := by
    simp [Step.failedOnce, Step.paidAfterAll, Step.isServed_ofCall]
  refine ⟨by decide +kernel, by decide +kernel, by decide +kernel, fun payment hpayment => ?_⟩
  obtain ⟨-, -, hcontinues, -⟩ := payment_lifeCycle "INR" Step.failedOnce Step.paidAfterAll .stocked
    hserved rfl rfl rfl
  obtain ⟨later, hlater, hid, -, hstatus, -⟩ := hcontinues payment hpayment
  exact ⟨later, hlater, hid, hstatus⟩

end Storefront
