import Storefront.Proofs.Payment.LifeCycle
import Storefront.Proofs.Purchase.Backing

/-!
The time at which an order was paid. While the order stays marked as paid its time stands, however
often it is delivered or its gateway reports, with one exception: an order that was delivered while
its payment had failed takes on the time of the success that the gateway reports after all.
-/

namespace Storefront

/-- The step brings in the payment of an order that was delivered while the payment had failed. -/
def Step.SettlesLate (currency : String) (step : Step) (store : Store) (id : OrderId) : Prop :=
  ∃ order ∈ store.tables.orders, ∃ payment ∈ store.tables.payments,
    ∃ next ∈ (step.run currency store).store.tables.payments,
      order.id = id ∧ payment.orderId = id ∧ next.orderId = id ∧
        order.status = word OrderStatus.delivered ∧ payment.status = word PaymentStatus.failed ∧
          next.status = word PaymentStatus.paid

/-- The step is one of the run, and it brings in the payment of the order late. -/
def SettledLate (currency : String) (start : Store) (steps : List Step) (id : OrderId)
    (step : Step) : Prop :=
  ∃ before after, steps = before ++ step :: after ∧
    step.SettlesLate currency (storeAfter currency before start) id

/-- The order is marked as paid from the beginning of the run to its end. -/
def StaysPaid (currency : String) (start : Store) (steps : List Step) (id : OrderId) : Prop :=
  ∀ before after, steps = before ++ after →
    ∀ order ∈ (storeAfter currency before start).tables.orders, order.id = id →
      order.paymentStatus = word PaymentStatus.paid

/-- The purchase has a payment, which is in the state. -/
def Purchase.PaymentIs (purchase : Purchase) (status : PaymentStatus) : Prop :=
  ∃ payment, purchase.payment = some payment ∧ payment.status = status

/-- A purchase that is delivered has no payment that is still to be paid. -/
def Purchase.Collected (purchase : Purchase) : Prop :=
  purchase.order.status = .delivered → ¬purchase.PaymentIs .pending

/-- The payment of the one purchase, which is delivered, has failed, and in the other it is paid. -/
def Purchase.SettledLateBy (purchase next : Purchase) : Prop :=
  purchase.order.status = .delivered ∧ purchase.PaymentIs .failed ∧ next.PaymentIs .paid

namespace Purchase

variable {clock : Clock} {purchase next : Purchase}

theorem Collected.of_placed (h : purchase.IsPlaced) : purchase.Collected := by
  rintro - ⟨payment, hfound, -⟩
  simp [h.no_payment] at hfound

theorem Collected.move (h : purchase.Collected) (hmove : purchase.Move clock next) :
    next.Collected := by
  cases hmove with
  | kept => exact h
  | lessened => exact h
  | cancelledPaid => exact fun hdelivered => by cases hdelivered
  | cancelledUnpaid => exact fun hdelivered => by cases hdelivered
  | refundMissed => exact fun hdelivered => by cases hdelivered
  | advanced allowed undelivered => exact fun hdelivered => absurd hdelivered undelivered
  | delivered =>
    rintro - ⟨payment, hfound, hpending⟩
    obtain ⟨old, -, rfl⟩ := Option.map_eq_some_iff.mp hfound
    unfold Payment.collect at hpending
    split at hpending
    next => cases hpending
    next hother => exact hother hpending
  | intentCreated pending =>
    intro hdelivered
    simp [pending] at hdelivered
  | confirmed =>
    rintro - ⟨payment, hfound, hpending⟩
    obtain rfl := Option.some.inj hfound
    cases hpending
  | failed =>
    rintro - ⟨payment, hfound, hpending⟩
    obtain rfl := Option.some.inj hfound
    cases hpending
  | refunded =>
    rintro - ⟨payment, hfound, hpending⟩
    obtain rfl := Option.some.inj hfound
    cases hpending

/-- A success that comes late sets the time anew. -/
theorem Move.paidAt_of_late (h : purchase.Move clock next) (late : purchase.SettledLateBy next) :
    next.order.paidAt = some clock.wall := by
  obtain ⟨hdelivered, ⟨payment, hfound, hfailed⟩, later, hlater, hpaid⟩ := late
  have hkept (hsame : next.payment = purchase.payment) : False := by
    obtain rfl : payment = later := Option.some.inj (hfound.symm.trans (hsame.symm.trans hlater))
    simp [hfailed] at hpaid
  cases h with
  | kept => exact (hkept rfl).elim
  | lessened => exact (hkept rfl).elim
  | cancelledPaid cancellable => simp [hdelivered, OrderStatus.canBecome] at cancellable
  | cancelledUnpaid cancellable => simp [hdelivered, OrderStatus.canBecome] at cancellable
  | refundMissed => exact (hkept rfl).elim
  | advanced => exact (hkept rfl).elim
  | delivered allowed => simp [hdelivered, OrderStatus.canBecome] at allowed
  | intentCreated pending => simp [hdelivered] at pending
  | confirmed => rfl
  | failed =>
    obtain rfl := Option.some.inj hlater
    cases hpaid
  | refunded =>
    obtain rfl := Option.some.inj hlater
    cases hpaid

/-- Nothing else sets the time of an order anew that is and stays marked as paid. -/
theorem Move.paidAt_eq (h : purchase.Move clock next) (backed : purchase.Backed)
    (collected : purchase.Collected) (before : purchase.order.paymentStatus = .paid)
    (after : next.order.paymentStatus = .paid) (timely : ¬purchase.SettledLateBy next) :
    next.order.paidAt = purchase.order.paidAt := by
  cases h with
  | cancelledUnpaid => cases after
  | delivered =>
    obtain ⟨paidAt, hpaidAt⟩ := Option.isSome_iff_exists.mp (backed.paidAt_iff.mpr (.inl before))
    change some (purchase.order.paidAt.getD clock.wall) = purchase.order.paidAt
    rw [hpaidAt]
    rfl
  | @confirmed payment found uncancelled unsettled =>
    -- The payment is still on its way, so the order is marked as paid because it is delivered.
    have hdelivered : purchase.order.status = .delivered := by
      refine (backed.of_paid before).resolve_right ?_
      rintro ⟨other, hother, hpaid⟩
      obtain rfl : payment = other := Option.some.inj (found.symm.trans hother)
      simp [hpaid, PaymentStatus.isUnsettled] at unsettled
    have hfailed : payment.status = .failed := by
      cases hstatus : payment.status with
      | failed => rfl
      | pending => exact absurd ⟨payment, found, hstatus⟩ (collected hdelivered)
      | _ => simp [hstatus, PaymentStatus.isUnsettled] at unsettled
    exact absurd ⟨hdelivered, ⟨payment, found, hfailed⟩, _, rfl, rfl⟩ timely
  | _ => rfl

namespace StoredIn

variable {store : Store} {status : PaymentStatus}

theorem paymentIs_iff (h : purchase.StoredIn store.tables) (lawful : store.tables.Lawful) :
    purchase.PaymentIs status ↔
      ∃ row ∈ store.tables.payments,
        row.orderId = purchase.order.id ∧ row.status = word status := by
  constructor
  · rintro ⟨payment, hfound, hstatus⟩
    obtain ⟨hrow, howner⟩ := h.mem_payments.mp hfound
    exact ⟨payment.row, hrow, howner, congrArg word hstatus⟩
  · rintro ⟨row, hrow, howner, hstatus⟩
    obtain ⟨payment, rfl⟩ := lawful.settled.sound.read row hrow
    exact ⟨payment, h.mem_payments.mpr ⟨hrow, howner⟩, PaymentStatus.word_inj.mp hstatus⟩

theorem settlesLate_iff {currency : String} {step : Step} (served : step.IsServed)
    (h : purchase.StoredIn store.tables) (lawful : store.tables.Lawful)
    (h' : next.StoredIn (step.run currency store).store.tables)
    (own : next.order.id = purchase.order.id) :
    step.SettlesLate currency store purchase.order.id ↔ purchase.SettledLateBy next := by
  have hlawful : (step.run currency store).store.tables.Lawful := Step.lawful served lawful
  unfold SettledLateBy
  rw [h.paymentIs_iff lawful, h'.paymentIs_iff hlawful, own]
  constructor
  · rintro ⟨row, hrow, payment, hpayment, later, hlater, hid, howner, howner', hdelivered, hfailed,
      hpaid⟩
    obtain rfl := eq_of_key_eq lawful.coherent.orders_key hrow h.order_mem hid
    exact ⟨OrderStatus.word_inj.mp hdelivered, ⟨payment, hpayment, howner, hfailed⟩,
      later, hlater, howner', hpaid⟩
  · rintro ⟨hdelivered, ⟨payment, hpayment, howner, hfailed⟩, later, hlater, howner', hpaid⟩
    exact ⟨_, h.order_mem, payment, hpayment, later, hlater, rfl, howner, howner',
      congrArg word hdelivered, hfailed, hpaid⟩

end StoredIn
end Purchase

section Runs

variable {currency : String} {start : Store} {steps : List Step} {step last : Step} {id : OrderId}

theorem SettledLate.snoc_iff : SettledLate currency start (steps ++ [last]) id step ↔
    SettledLate currency start steps id step ∨
      step = last ∧ last.SettlesLate currency (storeAfter currency steps start) id := by
  constructor
  · rintro ⟨before, after, hsplit, hlate⟩
    rcases split_snoc hsplit with ⟨rfl, rfl, -⟩ | ⟨rest, -, hinit⟩
    · exact .inr ⟨rfl, hlate⟩
    · exact .inl ⟨before, rest, hinit, hlate⟩
  · rintro (⟨before, after, rfl, hlate⟩ | ⟨rfl, hlate⟩)
    · exact ⟨before, after ++ [last], by simp, hlate⟩
    · exact ⟨steps, [], rfl, hlate⟩

theorem StaysPaid.init (h : StaysPaid currency start (steps ++ [last]) id) :
    StaysPaid currency start steps id := by
  rintro before after rfl
  exact h before (after ++ [last]) (List.append_assoc before after [last])

/-- The order of a purchase at the end of a run over which it stays marked as paid. -/
theorem StaysPaid.paymentStatus {purchase : Purchase}
    (h : StaysPaid currency start steps purchase.order.id)
    (stored : purchase.StoredIn (storeAfter currency steps start).tables) :
    purchase.order.paymentStatus = .paid := by
  have hpaid := h steps [] (List.append_nil steps).symm _ stored.order_mem rfl
  exact PaymentStatus.word_inj.mp hpaid

/-- What a run over which the order stays marked as paid makes of a purchase. -/
structure Purchase.PaidOver (currency : String) (start : Store) (steps : List Step)
    (purchase next : Purchase) : Prop where
  stored : next.StoredIn (storeAfter currency steps start).tables
  id_eq : next.order.id = purchase.order.id
  backed : next.Backed
  collected : next.Collected
  timely : (∀ step, ¬SettledLate currency start steps purchase.order.id step) →
    next.order.paidAt = purchase.order.paidAt
  late : ∀ step, SettledLate currency start steps purchase.order.id step →
    next.order.paidAt = some step.clock.wall ∧
      ∃ payment, next.payment = some payment ∧ PaymentStatus.paid.Leads payment.status

theorem Purchase.StoredIn.exists_paidOver {purchase : Purchase}
    (served : ∀ step ∈ steps, step.IsServed) (lawful : start.tables.Lawful)
    (h : purchase.StoredIn start.tables) (backed : purchase.Backed) (collected : purchase.Collected)
    (paid : StaysPaid currency start steps purchase.order.id) :
    ∃ next, purchase.PaidOver currency start steps next := by
  induction steps, served using served_induction with
  | nil =>
    refine ⟨purchase, h, rfl, backed, collected, fun _ => rfl, ?_⟩
    rintro step ⟨before, after, hsplit, -⟩
    simp at hsplit
  | snoc steps step hearlier hlast ih =>
    obtain ⟨now, hnow⟩ := ih paid.init
    have hlawful : (storeAfter currency steps start).tables.Lawful :=
      lawful_storeAfter hearlier lawful
    have hmoves : now.MovesIn step.clock
        (step.run currency (storeAfter currency steps start)).store.tables :=
      hnow.stored.movesIn_step hlast hlawful
    obtain ⟨next, hnext, hmove⟩ := hmoves
    have hid : next.order.id = purchase.order.id := hmove.id_eq.trans hnow.id_eq
    have hstored : next.StoredIn (storeAfter currency (steps ++ [step]) start).tables := by
      rw [storeAfter_snoc]
      exact hnext
    have hsettles : step.SettlesLate currency (storeAfter currency steps start) purchase.order.id ↔
        now.SettledLateBy next := by
      rw [← hnow.id_eq]
      exact hnow.stored.settlesLate_iff hlast hlawful hnext hmove.id_eq
    have hkept (htimely : ¬now.SettledLateBy next) : next.order.paidAt = now.order.paidAt :=
      hmove.paidAt_eq hnow.backed hnow.collected
        (StaysPaid.paymentStatus (hnow.id_eq ▸ paid.init) hnow.stored)
        (StaysPaid.paymentStatus (hid ▸ paid) hstored) htimely
    refine ⟨next, hstored, hid, hnow.backed.move hmove, hnow.collected.move hmove, ?_, ?_⟩
    · intro htimely
      have hthis : ¬now.SettledLateBy next := fun hlate =>
        htimely step (SettledLate.snoc_iff.mpr (.inr ⟨rfl, hsettles.mpr hlate⟩))
      exact (hkept hthis).trans (hnow.timely fun other hlate =>
        htimely other (SettledLate.snoc_iff.mpr (.inl hlate)))
    · intro other hother
      rcases SettledLate.snoc_iff.mp hother with hlate | ⟨rfl, hlate⟩
      · obtain ⟨hpaidAt, payment, hfound, hleads⟩ := hnow.late other hlate
        obtain ⟨later, hlater, hturn⟩ := hmove.payment_moves hfound
        -- The payment has come in already, so this step is not the one that brings it in late.
        have hthis : ¬now.SettledLateBy next := by
          rintro ⟨-, ⟨failed, hfailed, hstatus⟩, -⟩
          obtain rfl : payment = failed := Option.some.inj (hfound.symm.trans hfailed)
          rw [hstatus] at hleads
          simpa [PaymentStatus.stage] using hleads.eq_or_stage_lt
        exact ⟨(hkept hthis).trans hpaidAt, later, hlater, hleads.trans hturn.leads⟩
      · have hthis := hsettles.mp hlate
        obtain ⟨-, -, payment, hfound, hpaid⟩ := id hthis
        exact ⟨hmove.paidAt_of_late hthis, payment, hfound, hpaid ▸ .refl⟩

end Runs

/-- Wherever a run that began without orders has come to, an order that is marked as paid keeps the
time of its payment for as long as it stays marked, unless a gateway reports a success late: the
order was delivered while its payment had failed, and has the time of that step from then on. -/
theorem paidAt_of_staysPaid (currency : String) (before during : List Step) (start : Store)
    (served : ∀ step ∈ before ++ during, step.IsServed) (orders : start.tables.orders = [])
    (items : start.tables.orderItems = []) (payments : start.tables.payments = []) :
    ∀ order ∈ (storeAfter currency before start).tables.orders,
      StaysPaid currency (storeAfter currency before start) during order.id →
        ∃ later ∈ (storeAfter currency (before ++ during) start).tables.orders,
          later.id = order.id ∧
            ((∀ step, ¬SettledLate currency (storeAfter currency before start) during order.id
                step) → later.paidAt = order.paidAt) ∧
            ∀ step, SettledLate currency (storeAfter currency before start) during order.id step →
              later.paidAt = some step.clock.wall := by
  obtain ⟨hearlier, hlater⟩ := List.forall_mem_append.mp served
  intro row hrow hpaid
  have hlawful : (storeAfter currency before start).tables.Lawful :=
    lawful_storeAfter hearlier (.of_empty orders items payments)
  obtain ⟨purchase, rfl, hstored⟩ := Purchase.StoredIn.exists_of_mem hlawful hrow
  have hbacked : purchase.Backed := Purchase.invariant_storeAfter (fun _ => .of_placed)
    (fun _ _ _ => .move) hearlier orders items payments purchase hstored
  have hcollected : purchase.Collected := Purchase.invariant_storeAfter (fun _ => .of_placed)
    (fun _ _ _ => .move) hearlier orders items payments purchase hstored
  obtain ⟨next, hnext⟩ := hstored.exists_paidOver hlater hlawful hbacked hcollected hpaid
  refine ⟨next.order.row, ?_, hnext.id_eq, hnext.timely, fun step hlate =>
    (hnext.late step hlate).1⟩
  rw [storeAfter_append]
  exact hnext.stored.order_mem

/-- An order that is delivered after its payment has failed. -/
def Step.deliveredUnpaid : List Step :=
  [ofCallAt 1 (.placeDirect 7 6 .razorpay [⟨3, 2⟩]), ofCallAt 2 (.createIntent 7 1 .razorpay),
    ofCallAt 3 (.confirmPayment "razorpay_order_00000000000040008000000000000001" "failed"),
    ofCallAt 4 (.updateOrderStatus 1 .delivered)]

/-- The gateway reports a success after all. -/
def Step.reportedLate : Step :=
  ofCallAt 5 (.confirmPayment "razorpay_order_00000000000040008000000000000001" "success")

/-- The order is marked as paid before the late success and after it. -/
theorem staysPaid_reportedLate :
    StaysPaid "INR" (storeAfter "INR" Step.deliveredUnpaid .stocked) [Step.reportedLate] 1 := by
  intro before after hsplit
  rcases List.singleton_eq_append_iff.mp hsplit with ⟨rfl, rfl⟩ | ⟨rfl, rfl⟩
  · decide +kernel
  · decide +kernel

theorem paidAt_of_staysPaid_reportedLate :
    (storeAfter "INR" Step.deliveredUnpaid .stocked).tables.orders.map (·.paidAt) =
        [some ⟨4, 0⟩] ∧
      ∀ order ∈ (storeAfter "INR" Step.deliveredUnpaid .stocked).tables.orders, order.id = 1 →
        ∃ later ∈ (storeAfter "INR" (Step.deliveredUnpaid ++ [Step.reportedLate])
            .stocked).tables.orders, later.id = 1 ∧ later.paidAt = some ⟨5, 0⟩ := by
  have hserved : ∀ step ∈ Step.deliveredUnpaid ++ [Step.reportedLate], step.IsServed := by
    simp [Step.deliveredUnpaid, Step.reportedLate, Step.ofCallAt, Step.ofCall, Step.IsServed]
  have hlate : SettledLate "INR" (storeAfter "INR" Step.deliveredUnpaid .stocked)
      [Step.reportedLate] 1 Step.reportedLate := by
    refine ⟨[], [], rfl, ?_⟩
    unfold Step.SettlesLate
    decide +kernel
  refine ⟨by decide +kernel, fun order horder hid => ?_⟩
  obtain ⟨later, hlater, hsame, -, hpaidAt⟩ := paidAt_of_staysPaid "INR" Step.deliveredUnpaid
    [Step.reportedLate] .stocked hserved rfl rfl rfl order horder (hid ▸ staysPaid_reportedLate)
  rw [hid] at hpaidAt
  exact ⟨later, hlater, hsame.trans hid, hpaidAt Step.reportedLate hlate⟩

/-- The late success sets the time of payment anew. -/
theorem paidAt_lost :
    ¬(StaysPaid "INR" (storeAfter "INR" Step.deliveredUnpaid .stocked) [Step.reportedLate] 1 →
      ∀ order ∈ (storeAfter "INR" Step.deliveredUnpaid .stocked).tables.orders,
        ∀ later ∈ (storeAfter "INR" (Step.deliveredUnpaid ++ [Step.reportedLate])
            .stocked).tables.orders, order.id = 1 → later.id = 1 →
              later.paidAt = order.paidAt) := by
  intro hclaim
  have hkept := hclaim staysPaid_reportedLate
  revert hkept
  decide +kernel

end Storefront
