import Storefront.Proofs.Order.Composition
import Storefront.Proofs.Order.LifeCycle
import Storefront.Proofs.Payment.LifeCycle

/-!
What is owed for a purchase and what its payment covers. Cancellations only ever take items off the
total, and a payment is created for what the order comes to at that moment; so a payment covers what
is owed from then on.
-/

namespace Storefront

namespace Purchase

/-- A purchase is worth what its items come to, and what is owed for it is what the open ones come
to. -/
structure Valued (purchase : Purchase) : Prop where
  subtotal_natural : ∀ item ∈ purchase.items, 0 ≤ item.subtotal
  worth_eq : purchase.order.total - purchase.order.discount = (purchase.items.map (·.subtotal)).sum
  finalTotal_eq : purchase.order.finalTotal = Order.openTotal purchase.items

/-- The payment of a purchase covers what is owed, and is for no more than the purchase is worth. -/
def Covered (purchase : Purchase) : Prop :=
  ∀ payment, purchase.payment = some payment →
    purchase.order.finalTotal ≤ payment.amount ∧
      payment.amount ≤ purchase.order.total - purchase.order.discount

/-- A purchase goes on without being worth something else, and no more is owed for it. -/
structure Lessens (purchase later : Purchase) : Prop where
  id_eq : later.order.id = purchase.order.id
  total_eq : later.order.total = purchase.order.total
  discount_eq : later.order.discount = purchase.order.discount
  finalTotal_le : later.order.finalTotal ≤ purchase.order.finalTotal

end Purchase

namespace OrderItem

variable {clock : Clock} {item later : OrderItem}

/-- What an item adds to what is owed. -/
def owed (item : OrderItem) : Int :=
  if item.status ≠ .cancelled then item.subtotal else 0

theorem owed_natural (natural : 0 ≤ item.subtotal) : 0 ≤ item.owed := by
  unfold owed
  split
  · exact natural
  · exact Int.le_refl 0

theorem owed_le (natural : 0 ≤ item.subtotal) : item.owed ≤ item.subtotal := by
  unfold owed
  split
  · exact Int.le_refl _
  · exact natural

theorem Move.subtotal_eq (h : item.Move clock later) : later.subtotal = item.subtotal := by
  cases h <;> rfl

/-- An item that is cancelled is not owed for any more. -/
theorem Move.owed_le (h : item.Move clock later) (natural : 0 ≤ item.subtotal) :
    later.owed ≤ item.owed := by
  cases h with
  | kept => exact Int.le_refl _
  | cancelled reason pending => exact owed_natural natural

end OrderItem

namespace Order

variable {clock : Clock} {items later : List OrderItem}

theorem openTotal_eq (items : List OrderItem) :
    openTotal items = (items.map OrderItem.owed).sum := by
  rw [openTotal_eq_sum, sum_map_filter]
  refine congrArg List.sum (List.map_congr_left fun item _ => ?_)
  simp [OrderItem.owed]

theorem openTotal_natural (natural : ∀ item ∈ items, 0 ≤ item.subtotal) : 0 ≤ openTotal items := by
  rw [openTotal_eq]
  exact List.sum_nonneg (List.forall_mem_map.mpr fun item hitem =>
    OrderItem.owed_natural (natural item hitem))

theorem openTotal_le (natural : ∀ item ∈ items, 0 ≤ item.subtotal) :
    openTotal items ≤ (items.map (·.subtotal)).sum := by
  rw [openTotal_eq]
  exact List.sum_le_sum fun item hitem => OrderItem.owed_le (natural item hitem)

theorem subtotals_of_forall₂ (h : List.Forall₂ (OrderItem.Move clock) items later) :
    later.map (·.subtotal) = items.map (·.subtotal) := by
  induction h with
  | nil => rfl
  | cons hmove _ ih => rw [List.map_cons, List.map_cons, ih, hmove.subtotal_eq]

/-- Items that are cancelled come off the total. -/
theorem openTotal_le_of_forall₂ (natural : ∀ item ∈ items, 0 ≤ item.subtotal)
    (h : List.Forall₂ (OrderItem.Move clock) items later) : openTotal later ≤ openTotal items := by
  have howed : List.Forall₂ (· ≤ ·) (later.map OrderItem.owed) (items.map OrderItem.owed) := by
    rw [List.forall₂_map_left_iff, List.forall₂_map_right_iff]
    refine ((List.forall₂_and_left _ _).mpr ⟨natural, h⟩).flip.imp ?_
    exact fun next item ⟨hitem, hmove⟩ => hmove.owed_le hitem
  rw [openTotal_eq, openTotal_eq]
  exact howed.sum_le_sum

end Order

namespace Purchase

variable {clock : Clock} {purchase next : Purchase}

namespace Valued

theorem finalTotal_natural (h : purchase.Valued) : 0 ≤ purchase.order.finalTotal := by
  rw [h.finalTotal_eq]
  exact Order.openTotal_natural h.subtotal_natural

theorem finalTotal_le (h : purchase.Valued) :
    purchase.order.finalTotal ≤ purchase.order.total - purchase.order.discount := by
  rw [h.finalTotal_eq, h.worth_eq]
  exact Order.openTotal_le h.subtotal_natural

end Valued

theorem Move.lessens (h : purchase.Move clock next) (valued : purchase.Valued) :
    purchase.Lessens next := by
  have hnatural := valued.finalTotal_natural
  cases h with
  | lessened cancellable withdrawn =>
    refine ⟨rfl, rfl, rfl, ?_⟩
    rw [valued.finalTotal_eq]
    exact Order.openTotal_le_of_forall₂ valued.subtotal_natural withdrawn
  | cancelledPaid => exact ⟨rfl, rfl, rfl, hnatural⟩
  | cancelledUnpaid => exact ⟨rfl, rfl, rfl, hnatural⟩
  | refundMissed => exact ⟨rfl, rfl, rfl, hnatural⟩
  | _ => exact ⟨rfl, rfl, rfl, Int.le_refl _⟩

theorem Move.valued (h : purchase.Move clock next) (valued : purchase.Valued) : next.Valued := by
  have hsubtotals := Order.subtotals_of_forall₂ h.items_move
  have hlessens := h.lessens valued
  refine ⟨?_, ?_, ?_⟩
  · rw [← List.forall_mem_map (f := fun item : OrderItem => item.subtotal) (P := (0 ≤ ·)),
      hsubtotals]
    exact List.forall_mem_map.mpr valued.subtotal_natural
  · rw [hlessens.total_eq, hlessens.discount_eq, valued.worth_eq, hsubtotals]
  · cases h with
    | lessened => rfl
    | cancelledPaid cancellable withdrawn emptied => exact (Order.openTotal_eq_zero emptied).symm
    | cancelledUnpaid cancellable withdrawn emptied => exact (Order.openTotal_eq_zero emptied).symm
    | refundMissed pending due withdrawn emptied => exact (Order.openTotal_eq_zero emptied).symm
    | _ => exact valued.finalTotal_eq

theorem Lessens.trans {last : Purchase} (h : purchase.Lessens next) (h' : next.Lessens last) :
    purchase.Lessens last :=
  ⟨h'.id_eq.trans h.id_eq, h'.total_eq.trans h.total_eq, h'.discount_eq.trans h.discount_eq,
    Int.le_trans h'.finalTotal_le h.finalTotal_le⟩

/-- However a purchase evolves, no more is owed for it. -/
theorem Evolves.lessens (h : purchase.Evolves next) (valued : purchase.Valued) :
    purchase.Lessens next := by
  have hboth : next.Valued ∧ purchase.Lessens next := by
    induction h with
    | refl => exact ⟨valued, rfl, rfl, rfl, Int.le_refl _⟩
    | tail _ hmove ih =>
      obtain ⟨clock, hmove⟩ := hmove
      exact ⟨hmove.valued ih.1, ih.2.trans (hmove.lessens ih.1)⟩
  exact hboth.2

/-- A payment covers what is owed when it is created, and goes on doing so. -/
theorem Move.covered (h : purchase.Move clock next) (valued : purchase.Valued)
    (covered : purchase.Covered) : next.Covered := by
  intro later hlater
  have hlessens := h.lessens valued
  rw [hlessens.total_eq, hlessens.discount_eq]
  cases hpayment : purchase.payment with
  | none =>
    obtain ⟨-, currency, id, method, rfl⟩ := h.opened_of_unpaid hpayment hlater
    exact ⟨hlessens.finalTotal_le, valued.finalTotal_le⟩
  | some payment =>
    obtain ⟨other, hother, hmove⟩ := h.payment_moves hpayment
    obtain rfl : later = other := Option.some.inj (hlater.symm.trans hother)
    obtain ⟨hcovers, hbounded⟩ := covered payment hpayment
    rw [Payment.amount_of_fixed hmove.fixed_eq]
    exact ⟨Int.le_trans hlessens.finalTotal_le hcovers, hbounded⟩

namespace StoredIn

variable {t : Tables}

/-- Purchases in tables of orders that are made of their items are worth what these come to. -/
theorem valued (h : purchase.StoredIn t) (lawful : t.Lawful) (composed : t.Composed) :
    purchase.Valued := by
  have horder := composed.orders purchase.order.row h.order_mem
  have hid : purchase.order.row.id = purchase.order.id := rfl
  rw [hid, h.items_eq] at horder
  refine ⟨fun item hitem => ?_, ?_, h.finalTotal_eq lawful⟩
  · exact (horder.priced item.row (List.mem_map_of_mem hitem)).subtotal_natural
  · refine horder.worth_eq.trans ?_
    rw [List.map_map]
    rfl

end StoredIn
end Purchase

section Runs

variable {currency : String} {steps : List Step} {start : Store}
  (orders : start.tables.orders = []) (items : start.tables.orderItems = [])
  (payments : start.tables.payments = [])
  (prices : ∀ price ∈ start.tables.productPrices, 0 ≤ price.amount)

include orders items payments prices

/-- Wherever a run that began without orders has come to, purchases are worth what their items come
to. -/
theorem Purchase.StoredIn.valued_storeAfter (served : ∀ step ∈ steps, step.IsServed)
    {purchase : Purchase} (h : purchase.StoredIn (storeAfter currency steps start).tables) :
    purchase.Valued :=
  h.valued (lawful_storeAfter served (.of_empty orders items payments))
    (composed_storeAfter currency served orders items prices).2

/-- Wherever a run that began without orders has come to, payments cover what is owed. -/
theorem Purchase.StoredIn.covered_storeAfter (served : ∀ step ∈ steps, step.IsServed)
    {purchase : Purchase} (h : purchase.StoredIn (storeAfter currency steps start).tables) :
    purchase.Covered := by
  induction steps, served using served_induction generalizing purchase with
  | nil => exact absurd orders h.orders_ne_nil
  | snoc steps step hearlier hlast ih =>
    have hlawful : (storeAfter currency steps start).tables.Lawful :=
      lawful_storeAfter hearlier (.of_empty orders items payments)
    rw [storeAfter_snoc] at h
    rcases h.origin_step hlast hlawful with hplaced | ⟨before, hbefore, hmove⟩
    · simp [Covered, hplaced.no_payment]
    · have hvalued := hbefore.valued_storeAfter orders items payments prices hearlier
      exact hmove.covered hvalued (ih hbefore)

end Runs

/-- A payment found after a step was there before, with the same amount, or the step created it for
what its order comes to. -/
theorem Step.payment_origin {currency : String} {step : Step} {store : Store}
    (served : step.IsServed) (lawful : store.tables.Lawful) {row : PaymentRow}
    (stored : row ∈ (step.run currency store).store.tables.payments) :
    (∃ old ∈ store.tables.payments, row.record = old.record) ∨
      (∀ old ∈ store.tables.payments, old.id ≠ row.id) ∧
        ∃ order ∈ store.tables.orders, order ∈ (step.run currency store).store.tables.orders ∧
          order.id = row.orderId ∧ order.finalTotal = row.amount := by
  have hkept : PaymentRow.Kept _ _ :=
    (Tables.Records.step currency lawful.settled.sound.key served.sparesRecords).payments
  by_cases hold : ∃ old ∈ store.tables.payments, old.id = row.id
  · left
    obtain ⟨old, hold, hid⟩ := hold
    obtain ⟨later, hlater, hrecord⟩ := hkept.exists_record_eq hold
    have hsame : later.id = old.id := congrArg (·.id) hrecord
    obtain rfl := eq_of_key_eq hkept.key hlater stored (hsame.trans hid)
    exact ⟨old, hold, hrecord⟩
  · right
    push Not at hold
    obtain ⟨next, payment, rfl, hfound, hnext⟩ :=
      Purchase.StoredIn.exists_of_mem_payments (Step.lawful served lawful) stored
    rcases hnext.origin_step served lawful with hplaced | ⟨purchase, hpurchase, hmove⟩
    · simp [hplaced.no_payment] at hfound
    · cases hpayment : purchase.payment with
      | some old =>
        obtain ⟨later, hlater, hcontinues⟩ := hmove.payment_moves hpayment
        obtain rfl : payment = later := Option.some.inj (hfound.symm.trans hlater)
        have hid := Payment.id_of_fixed hcontinues.fixed_eq
        exact absurd hid.symm (hold old.row (hpurchase.mem_payments.mp hpayment).1)
      | none =>
        obtain ⟨horder, other, id, method, hopened⟩ := hmove.opened_of_unpaid hpayment hfound
        refine ⟨hold, purchase.order.row, hpurchase.order_mem, ?_, ?_, ?_⟩
        · rw [← horder]
          exact hnext.order_mem
        · rw [hopened]
          rfl
        · rw [hopened]
          rfl

/-- The payment was created by a step of the run, for what its order came to before and after it. -/
def CreatedFor (currency : String) (start : Store) (steps : List Step) (payment : PaymentRow) :
    Prop :=
  ∃ before step after, steps = before ++ step :: after ∧
    (∀ old ∈ (storeAfter currency before start).tables.payments, old.id ≠ payment.id) ∧
    (∃ created ∈ (storeAfter currency (before ++ [step]) start).tables.payments,
      created.record = payment.record) ∧
    ∃ order ∈ (storeAfter currency before start).tables.orders,
      order ∈ (storeAfter currency (before ++ [step]) start).tables.orders ∧
        order.id = payment.orderId ∧ order.finalTotal = payment.amount

namespace CreatedFor

variable {currency : String} {start : Store} {steps : List Step} {step : Step}
  {payment later : PaymentRow}

theorem snoc (h : CreatedFor currency start steps payment)
    (hrecord : later.record = payment.record) :
    CreatedFor currency start (steps ++ [step]) later := by
  obtain ⟨before, creating, after, rfl, hnew, ⟨created, hcreated, hsame⟩, order, horder, hkept,
    howner, hamount⟩ := h
  have hid : later.id = payment.id := congrArg (·.id) hrecord
  have horderId : later.orderId = payment.orderId := congrArg (·.orderId) hrecord
  have hlater : later.amount = payment.amount := congrArg (·.amount) hrecord
  refine ⟨before, creating, after ++ [step], by simp, ?_,
    ⟨created, hcreated, hsame.trans hrecord.symm⟩,
    order, horder, hkept, howner.trans horderId.symm, hamount.trans hlater.symm⟩
  rw [hid]
  exact hnew

/-- Every payment that a run leaves was created in it. -/
theorem of_mem (served : ∀ step ∈ steps, step.IsServed) (orders : start.tables.orders = [])
    (items : start.tables.orderItems = []) (payments : start.tables.payments = [])
    (stored : payment ∈ (storeAfter currency steps start).tables.payments) :
    CreatedFor currency start steps payment := by
  induction steps, served using served_induction generalizing payment with
  | nil =>
    have hmem : payment ∈ start.tables.payments := stored
    rw [payments] at hmem
    cases hmem
  | snoc steps step hearlier hlast ih =>
    have hlawful : (storeAfter currency steps start).tables.Lawful :=
      lawful_storeAfter hearlier (.of_empty orders items payments)
    have hstored := stored
    rw [storeAfter_snoc] at stored
    rcases Step.payment_origin hlast hlawful stored with
      ⟨old, hold, hrecord⟩ | ⟨hnew, order, horder, hkept, howner, hamount⟩
    · exact (ih hold).snoc hrecord
    · rw [← storeAfter_snoc] at hkept
      exact ⟨steps, step, [], rfl, hnew, ⟨payment, hstored, rfl⟩, order, horder, hkept, howner,
        hamount⟩

end CreatedFor

/-- Over a run that began without orders, what an order comes to never rises, and it lies between
nothing and the total less the discount. A payment is created for what its order comes to in that
step, and so it covers what the order comes to ever after. -/
theorem amounts_covered (currency : String) (before after : List Step) (start : Store)
    (served : ∀ step ∈ before ++ after, step.IsServed) (orders : start.tables.orders = [])
    (items : start.tables.orderItems = []) (payments : start.tables.payments = [])
    (prices : ∀ price ∈ start.tables.productPrices, 0 ≤ price.amount) :
    (∀ order ∈ (storeAfter currency before start).tables.orders,
        ∃ later ∈ (storeAfter currency (before ++ after) start).tables.orders,
          later.id = order.id ∧ later.finalTotal ≤ order.finalTotal) ∧
      ((storeAfter currency (before ++ after) start).tables.orders.map (·.id)).Nodup ∧
      (∀ order ∈ (storeAfter currency (before ++ after) start).tables.orders,
        0 ≤ order.finalTotal ∧ order.finalTotal ≤ order.total - order.discount) ∧
      ∀ payment ∈ (storeAfter currency (before ++ after) start).tables.payments,
        CreatedFor currency start (before ++ after) payment ∧
          ∃ order ∈ (storeAfter currency (before ++ after) start).tables.orders,
            order.id = payment.orderId ∧ 0 ≤ order.finalTotal ∧ order.finalTotal ≤ payment.amount ∧
              payment.amount ≤ order.total - order.discount := by
  have hempty : start.tables.Lawful := .of_empty orders items payments
  have hbefore : ∀ step ∈ before, step.IsServed :=
    fun step hstep => served step (List.mem_append_left _ hstep)
  have hafter : ∀ step ∈ after, step.IsServed :=
    fun step hstep => served step (List.mem_append_right _ hstep)
  have hfirst : (storeAfter currency before start).tables.Lawful := lawful_storeAfter hbefore hempty
  have hlast : (storeAfter currency (before ++ after) start).tables.Lawful :=
    lawful_storeAfter served hempty
  refine ⟨fun row hrow => ?_, hlast.coherent.orders_key, fun row hrow => ?_, fun row hrow => ?_⟩
  · obtain ⟨purchase, rfl, hpurchase⟩ := Purchase.StoredIn.exists_of_mem hfirst hrow
    have hvalued := hpurchase.valued_storeAfter orders items payments prices hbefore
    obtain ⟨later, hlater, hevolves⟩ : ∃ later : Purchase,
        later.StoredIn (storeAfter currency after (storeAfter currency before start)).tables ∧
          purchase.Evolves later := hpurchase.evolves hafter hfirst
    have hlessens := hevolves.lessens hvalued
    rw [← storeAfter_append] at hlater
    exact ⟨later.order.row, hlater.order_mem, hlessens.id_eq, hlessens.finalTotal_le⟩
  · obtain ⟨purchase, rfl, hpurchase⟩ := Purchase.StoredIn.exists_of_mem hlast hrow
    have hvalued := hpurchase.valued_storeAfter orders items payments prices served
    exact ⟨hvalued.finalTotal_natural, hvalued.finalTotal_le⟩
  · obtain ⟨purchase, payment, rfl, hfound, hpurchase⟩ :=
      Purchase.StoredIn.exists_of_mem_payments hlast hrow
    have hvalued := hpurchase.valued_storeAfter orders items payments prices served
    have hcovered := hpurchase.covered_storeAfter orders items payments prices served
    obtain ⟨hcovers, hbounded⟩ := hcovered payment hfound
    refine ⟨.of_mem served orders items payments hrow, purchase.order.row, hpurchase.order_mem, ?_,
      hvalued.finalTotal_natural, hcovers, hbounded⟩
    exact (hpurchase.mem_payments.mp hfound).2.symm

/-- A purchase of two products, of which one is cancelled when the payment has been created. -/
def Step.intended : List Step :=
  [ofCall (.placeDirect 7 6 .razorpay [⟨3, 2⟩, ⟨4, 1⟩]), ofCall (.createIntent 7 1 .razorpay)]

/-- The payment is for both products, and the order comes to what is left. -/
theorem amounts_intended :
    (storeAfter "INR" (Step.intended ++ [Step.ofCall (.cancelItem 7 1 1 "Too many")])
        .stocked).tables.payments.map (·.amount) = [5808] ∧
      (storeAfter "INR" (Step.intended ++ [Step.ofCall (.cancelItem 7 1 1 "Too many")])
        .stocked).tables.orders.map (·.finalTotal) = [4000] ∧
      ∀ order ∈ (storeAfter "INR" Step.intended .stocked).tables.orders,
        ∃ later ∈ (storeAfter "INR" (Step.intended ++ [Step.ofCall (.cancelItem 7 1 1 "Too many")])
            .stocked).tables.orders, later.id = order.id ∧ later.finalTotal ≤ order.finalTotal := by
  have hserved : ∀ step ∈ Step.intended ++ [Step.ofCall (.cancelItem 7 1 1 "Too many")],
      step.IsServed := by
    simp [Step.intended, Step.isServed_ofCall]
  have hprices : ∀ price ∈ Store.stocked.tables.productPrices, 0 ≤ price.amount := by decide
  refine ⟨by decide +kernel, by decide +kernel, ?_⟩
  exact (amounts_covered "INR" Step.intended [Step.ofCall (.cancelItem 7 1 1 "Too many")] .stocked
    hserved rfl rfl rfl hprices).1

end Storefront
