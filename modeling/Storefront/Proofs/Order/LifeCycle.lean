import Storefront.Proofs.Purchase.Evolution

/-!
The life of an order and of its items. Whatever moves an order, be it an administrator, its user or
the cancellation of its last open item, moves it along the states that may follow one another. An
item is cancelled once at most, and an order that is shipped keeps its items and what it comes to.
-/

namespace Storefront

/-- The order is in the hands of the carrier or of its user. -/
def OrderStatus.IsSent (status : OrderStatus) : Prop :=
  status = .shipped ∨ status = .delivered

/-- The order stays in its state, or it moves to one that may follow. -/
def OrderStatus.Precedes (status next : OrderStatus) : Prop :=
  next = status ∨ status.canBecome next

/-- The item is the same at a later time: untouched, or cancelled since. -/
def OrderItem.Continues (item later : OrderItem) : Prop :=
  later = item ∨ item.status = .pending ∧ ∃ clock reason, later = item.cancel clock reason

/-- A cancelled item, and no other, has a time and a reason. -/
structure OrderItem.Marked (item : OrderItem) : Prop where
  cancelledAt_iff : item.cancelledAt.isSome ↔ item.status = .cancelled
  reason_iff : item.cancellationReason.isSome ↔ item.status = .cancelled

/-- The purchase is the same at a later time. -/
structure Purchase.Continues (purchase later : Purchase) : Prop where
  id_eq : later.order.id = purchase.order.id
  status : purchase.order.status.Precedes later.order.status
  items : ∀ item ∈ purchase.items, ∃ next ∈ later.items, item.Continues next
  sent : purchase.order.status.IsSent →
    later.items = purchase.items ∧ later.order.finalTotal = purchase.order.finalTotal

namespace OrderStatus.Precedes

variable {status next last : OrderStatus}

theorem trans (h : status.Precedes next) (h' : next.Precedes last) : status.Precedes last := by
  revert h h'
  unfold Precedes
  cases status <;> cases next <;> cases last <;> decide

theorem isSent (h : status.Precedes next) (sent : status.IsSent) : next.IsSent := by
  revert h sent
  unfold Precedes IsSent
  cases status <;> cases next <;> decide

/-- A delivered order and a cancelled one stay as they are. -/
theorem eq_of_closed (h : status.Precedes next)
    (closed : status = .delivered ∨ status = .cancelled) :
    next = status := by
  rcases h with hsame | hnext
  · exact hsame
  · rcases closed with rfl | rfl
    · cases hnext
    · cases hnext

/-- Nothing becomes pending again. -/
theorem eq_pending (h : status.Precedes next) (pending : next = .pending) : status = .pending := by
  subst pending
  revert h
  unfold Precedes
  cases status <;> decide

end OrderStatus.Precedes

/-- Whatever stands in the one list is related to something in the other. -/
theorem exists_of_forall₂ {α β : Type} {R : α → β → Prop} {xs : List α} {ys : List β}
    (h : List.Forall₂ R xs ys) : ∀ x ∈ xs, ∃ y ∈ ys, R x y := by
  induction h with
  | nil => simp
  | cons hhead htail ih =>
    intro x hx
    rcases List.mem_cons.mp hx with rfl | hx
    · exact ⟨_, List.mem_cons_self, hhead⟩
    · obtain ⟨y, hy, hrel⟩ := ih x hx
      exact ⟨y, List.mem_cons_of_mem _ hy, hrel⟩

namespace OrderItem

variable {clock : Clock} {item later last : OrderItem}

theorem Move.continues (h : item.Move clock later) : item.Continues later := by
  cases h with
  | kept => exact .inl rfl
  | cancelled reason pending => exact .inr ⟨pending, clock, reason, rfl⟩

theorem Move.marked (h : item.Move clock later) (marked : item.Marked) : later.Marked := by
  cases h with
  | kept => exact marked
  | cancelled reason pending => exact ⟨iff_of_true rfl rfl, iff_of_true rfl rfl⟩

theorem Continues.id_eq (h : item.Continues later) : later.id = item.id := by
  rcases h with rfl | ⟨-, clock, reason, rfl⟩
  · rfl
  · rfl

/-- An item that is cancelled stays as it is. -/
theorem Continues.trans (h : item.Continues later) (h' : later.Continues last) :
    item.Continues last := by
  rcases h with rfl | ⟨hpending, clock, reason, rfl⟩
  · exact h'
  · rcases h' with rfl | ⟨hagain, -⟩
    · exact .inr ⟨hpending, clock, reason, rfl⟩
    · cases hagain

end OrderItem

namespace Purchase

variable {clock : Clock} {purchase next last : Purchase}

theorem Move.items_move (h : purchase.Move clock next) :
    List.Forall₂ (OrderItem.Move clock) purchase.items next.items := by
  have hsame : List.Forall₂ (OrderItem.Move clock) purchase.items purchase.items :=
    List.forall₂_same.mpr fun item _ => .kept
  cases h with
  | lessened cancellable withdrawn => exact withdrawn
  | cancelledPaid cancellable withdrawn => exact withdrawn
  | cancelledUnpaid cancellable withdrawn => exact withdrawn
  | refundMissed pending due withdrawn => exact withdrawn
  | _ => exact hsame

theorem Move.status_precedes (h : purchase.Move clock next) :
    purchase.order.status.Precedes next.order.status := by
  cases h with
  | cancelledPaid cancellable => exact .inr cancellable
  | cancelledUnpaid cancellable => exact .inr cancellable
  | refundMissed pending =>
    right
    rw [pending]
    rfl
  | advanced allowed => exact .inr allowed
  | delivered allowed => exact .inr allowed
  | _ => exact .inl rfl

/-- A move of an order that has been sent touches neither its items nor its total. -/
theorem Move.of_sent (h : purchase.Move clock next) (sent : purchase.order.status.IsSent) :
    next.items = purchase.items ∧ next.order.finalTotal = purchase.order.finalTotal := by
  have huncancellable : ¬purchase.order.status.canBecome .cancelled := by
    rcases sent with hstatus | hstatus
    · simp [hstatus, OrderStatus.canBecome]
    · simp [hstatus, OrderStatus.canBecome]
  cases h with
  | lessened cancellable => exact absurd cancellable huncancellable
  | cancelledPaid cancellable => exact absurd cancellable huncancellable
  | cancelledUnpaid cancellable => exact absurd cancellable huncancellable
  | refundMissed pending => simp [pending, OrderStatus.canBecome] at huncancellable
  | _ => exact ⟨rfl, rfl⟩

theorem Move.continues (h : purchase.Move clock next) : purchase.Continues next := by
  refine ⟨h.id_eq, h.status_precedes, fun item hitem => ?_, h.of_sent⟩
  obtain ⟨later, hlater, hmove⟩ := exists_of_forall₂ h.items_move item hitem
  exact ⟨later, hlater, hmove.continues⟩

theorem Continues.refl (purchase : Purchase) : purchase.Continues purchase :=
  ⟨rfl, .inl rfl, fun item hitem => ⟨item, hitem, .inl rfl⟩, fun _ => ⟨rfl, rfl⟩⟩

theorem Continues.trans (h : purchase.Continues next) (h' : next.Continues last) :
    purchase.Continues last := by
  constructor
  · exact h'.id_eq.trans h.id_eq
  · exact h.status.trans h'.status
  · intro item hitem
    obtain ⟨middle, hmiddle, hcontinues⟩ := h.items item hitem
    obtain ⟨later, hlater, hlast⟩ := h'.items middle hmiddle
    exact ⟨later, hlater, hcontinues.trans hlast⟩
  · intro hsent
    obtain ⟨hitems, htotal⟩ := h.sent hsent
    obtain ⟨hitems', htotal'⟩ := h'.sent (h.status.isSent hsent)
    exact ⟨hitems'.trans hitems, htotal'.trans htotal⟩

theorem Evolves.continues (h : purchase.Evolves next) : purchase.Continues next := by
  induction h with
  | refl => exact .refl purchase
  | tail _ hmove ih =>
    obtain ⟨clock, hmove⟩ := hmove
    exact ih.trans hmove.continues

/-- What items say of their cancellation goes by their states. -/
theorem Move.items_marked (h : purchase.Move clock next)
    (marked : ∀ item ∈ purchase.items, item.Marked) : ∀ item ∈ next.items, item.Marked := by
  intro later hlater
  obtain ⟨item, hitem, hmove⟩ := exists_of_forall₂ h.items_move.flip later hlater
  exact hmove.marked (marked item hitem)

theorem IsPlaced.items_marked (h : purchase.IsPlaced) : ∀ item ∈ purchase.items, item.Marked := by
  intro item hitem
  have hstatus := h.items_open item hitem
  obtain ⟨hreason, hcancelledAt⟩ := h.items_unmarked item hitem
  constructor
  · simp [hcancelledAt, hstatus]
  · simp [hreason, hstatus]

end Purchase

section Runs

variable {currency : String} {steps : List Step} {start : Store} {purchase : Purchase}

/-- A purchase in the store goes on over a run. -/
theorem Purchase.StoredIn.continues (served : ∀ step ∈ steps, step.IsServed)
    (lawful : start.tables.Lawful) (h : purchase.StoredIn start.tables) :
    ∃ later : Purchase, later.StoredIn (storeAfter currency steps start).tables ∧
      purchase.Continues later := by
  obtain ⟨later, hlater, hevolves⟩ := h.evolves served lawful
  exact ⟨later, hlater, hevolves.continues⟩

/-- What items say of their cancellation goes by their states wherever a run has come to. -/
theorem Purchase.StoredIn.items_marked (served : ∀ step ∈ steps, step.IsServed)
    (orders : start.tables.orders = []) (items : start.tables.orderItems = [])
    (payments : start.tables.payments = [])
    (h : purchase.StoredIn (storeAfter currency steps start).tables) :
    ∀ item ∈ purchase.items, item.Marked := by
  refine Purchase.invariant_storeAfter (I := fun purchase => ∀ item ∈ purchase.items, item.Marked)
    ?_ ?_ served orders items payments purchase h
  · exact fun purchase hplaced => hplaced.items_marked
  · exact fun clock purchase next hmarked hmove => hmove.items_marked hmarked

/-- An item that a step adds is pending. -/
theorem Step.item_pending {step : Step} {store : Store} (served : step.IsServed)
    (lawful : store.tables.Lawful) {row : ItemRow}
    (hrow : row ∈ (step.run currency store).store.tables.orderItems)
    (new : ∀ old ∈ store.tables.orderItems, old.id ≠ row.id) :
    row.status = word ItemStatus.pending := by
  have hlawful : (step.run currency store).store.tables.Lawful := Step.lawful served lawful
  obtain ⟨next, item, rfl, hitem, hnext⟩ := Purchase.StoredIn.exists_of_mem_items hlawful hrow
  rcases hnext.origin_step served lawful with hplaced | ⟨purchase, hpurchase, hmove⟩
  · exact congrArg word (hplaced.items_open item hitem)
  · obtain ⟨old, hold, hitemMove⟩ := exists_of_forall₂ hmove.items_move.flip item hitem
    obtain ⟨hstored, -⟩ := hpurchase.mem_items.mp hold
    exact absurd hitemMove.continues.id_eq.symm (new old.row hstored)

end Runs

/-- Over a run that began without orders no order and no item is ever removed. An order moves only
to states that may follow its own: a delivered or cancelled order stays as it is, a shipped one can
only be delivered, and nothing becomes pending again. Every item is pending when it is first stored,
and is cancelled once at most, when it is given a time and a reason, which no other item has. An
order that is shipped or delivered keeps its items and its total. -/
theorem order_lifeCycle (currency : String) (before : List Step) (step : Step) (after : List Step)
    (start : Store) (served : ∀ other ∈ before ++ step :: after, other.IsServed)
    (orders : start.tables.orders = []) (items : start.tables.orderItems = [])
    (payments : start.tables.payments = []) :
    (∀ order ∈ (storeAfter currency before start).tables.orders,
      ∃ later ∈ (storeAfter currency (before ++ step :: after) start).tables.orders,
        later.id = order.id ∧
          (∃ status next : OrderStatus, order.status = word status ∧ later.status = word next ∧
            (next = status ∨ status.canBecome next)) ∧
          (order.status = word OrderStatus.delivered ∨ order.status = word OrderStatus.cancelled →
            later.status = order.status) ∧
          (order.status = word OrderStatus.shipped →
            later.status = word OrderStatus.shipped ∨
              later.status = word OrderStatus.delivered) ∧
          (later.status = word OrderStatus.pending → order.status = word OrderStatus.pending) ∧
          (order.status = word OrderStatus.shipped ∨ order.status = word OrderStatus.delivered →
            later.finalTotal = order.finalTotal ∧
              (storeAfter currency (before ++ step :: after) start).tables.orderItems.filter
                  (fun item => item.orderId = order.id) =
                (storeAfter currency before start).tables.orderItems.filter
                  (fun item => item.orderId = order.id))) ∧
      (∀ item ∈ (storeAfter currency (before ++ [step]) start).tables.orderItems,
        (∀ old ∈ (storeAfter currency before start).tables.orderItems, old.id ≠ item.id) →
          item.status = word ItemStatus.pending) ∧
      (∀ item ∈ (storeAfter currency before start).tables.orderItems,
        ∃ later ∈ (storeAfter currency (before ++ step :: after) start).tables.orderItems,
          later = item ∨
            item.status = word ItemStatus.pending ∧
              ∃ clock reason, later = item.cancel clock reason) ∧
      ((storeAfter currency (before ++ step :: after) start).tables.orders.map (·.id)).Nodup ∧
      ((storeAfter currency (before ++ step :: after) start).tables.orderItems.map (·.id)).Nodup ∧
      ∀ item ∈ (storeAfter currency (before ++ step :: after) start).tables.orderItems,
        (item.cancelledAt.isSome ↔ item.status = word ItemStatus.cancelled) ∧
          (item.cancellationReason.isSome ↔ item.status = word ItemStatus.cancelled) := by
  have hempty : start.tables.Lawful := .of_empty orders items payments
  have hbefore : ∀ other ∈ before, other.IsServed :=
    fun other hother => served other (List.mem_append_left _ hother)
  have hafter : ∀ other ∈ step :: after, other.IsServed :=
    fun other hother => served other (List.mem_append_right _ hother)
  have hfirst : (storeAfter currency before start).tables.Lawful := lawful_storeAfter hbefore hempty
  have hlast : (storeAfter currency (before ++ step :: after) start).tables.Lawful :=
    lawful_storeAfter served hempty
  have hgoes_on {purchase : Purchase}
      (hpurchase : purchase.StoredIn (storeAfter currency before start).tables) :
      ∃ later : Purchase,
        later.StoredIn (storeAfter currency (before ++ step :: after) start).tables ∧
          purchase.Continues later := by
    rw [storeAfter_append]
    exact hpurchase.continues hafter hfirst
  refine ⟨?_, ?_, ?_, hlast.coherent.orders_key, hlast.coherent.items_key, ?_⟩
  · intro row hrow
    obtain ⟨purchase, rfl, hpurchase⟩ := Purchase.StoredIn.exists_of_mem hfirst hrow
    obtain ⟨later, hlater, hcontinues⟩ := hgoes_on hpurchase
    have hstatus := hcontinues.status
    refine ⟨later.order.row, hlater.order_mem, hcontinues.id_eq,
      ⟨purchase.order.status, later.order.status, rfl, rfl, hstatus⟩, ?_⟩
    simp only [Order.row, OrderStatus.word_inj]
    refine ⟨hstatus.eq_of_closed, fun hshipped => hstatus.isSent (.inl hshipped),
      hstatus.eq_pending, fun hsent => ?_⟩
    obtain ⟨hitems, htotal⟩ := hcontinues.sent hsent
    refine ⟨htotal, ?_⟩
    have hrows := hlater.items_eq
    rw [hcontinues.id_eq, hitems, ← hpurchase.items_eq] at hrows
    exact hrows
  · intro row hrow
    rw [storeAfter_snoc] at hrow
    exact Step.item_pending (hafter step List.mem_cons_self) hfirst hrow
  · intro row hrow
    obtain ⟨purchase, item, rfl, hitem, hpurchase⟩ :=
      Purchase.StoredIn.exists_of_mem_items hfirst hrow
    obtain ⟨later, hlater, hcontinues⟩ := hgoes_on hpurchase
    obtain ⟨next, hnext, hsame⟩ := hcontinues.items item hitem
    refine ⟨next.row, (hlater.mem_items.mp hnext).1, ?_⟩
    rcases hsame with rfl | ⟨hpending, clock, reason, rfl⟩
    · exact .inl rfl
    · exact .inr ⟨congrArg word hpending, clock, reason, rfl⟩
  · intro row hrow
    obtain ⟨purchase, item, rfl, hitem, hpurchase⟩ :=
      Purchase.StoredIn.exists_of_mem_items hlast hrow
    obtain ⟨hcancelledAt, hreason⟩ :=
      hpurchase.items_marked served orders items payments item hitem
    simp only [OrderItem.row, ItemStatus.word_inj]
    exact ⟨hcancelledAt, hreason⟩

/-- An order of two products that is shipped after one of them is cancelled. -/
def Step.shippedInPart : List Step :=
  [ofCall (.placeDirect 7 6 .cod [⟨3, 2⟩, ⟨4, 1⟩]), ofCall (.cancelItem 7 1 1 "Too many"),
    ofCall (.updateOrderStatus 1 .shipped)]

/-- The order is shipped, and no cancellation can do anything about it. -/
theorem order_shippedInPart :
    (storeAfter "INR" Step.shippedInPart .stocked).tables.orders.map (·.status) = ["shipped"] ∧
      ∀ order ∈ (storeAfter "INR" Step.shippedInPart .stocked).tables.orders,
        order.status = word OrderStatus.shipped →
          ∃ later ∈ (storeAfter "INR" (Step.shippedInPart ++ Step.ofCall (.cancelOrder 7 1) ::
              [Step.ofCall (.cancelItem 7 1 2 "Too late")]) .stocked).tables.orders,
            later.id = order.id ∧ later.finalTotal = order.finalTotal := by
  have hserved : ∀ other ∈ Step.shippedInPart ++ Step.ofCall (.cancelOrder 7 1) ::
      [Step.ofCall (.cancelItem 7 1 2 "Too late")], other.IsServed := by
    simp [Step.shippedInPart, Step.isServed_ofCall]
  refine ⟨by decide +kernel, fun order horder hshipped => ?_⟩
  obtain ⟨horders, -⟩ := order_lifeCycle "INR" Step.shippedInPart (.ofCall (.cancelOrder 7 1))
    [.ofCall (.cancelItem 7 1 2 "Too late")] .stocked hserved rfl rfl rfl
  obtain ⟨later, hlater, hid, -, -, -, -, hsent⟩ := horders order horder
  exact ⟨later, hlater, hid, (hsent (.inl hshipped)).1⟩

end Storefront
