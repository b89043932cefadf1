import Storefront.Proofs.Payment.References
import Storefront.Proofs.Purchase.Feasibility
import Storefront.Proofs.Service.Numbering

/-!
Deliveries, payments and refunds that cannot fail. In tables as a run leaves them every order and
every payment can be written back, and a new payment has an identifier and a reference of its own;
so what is allowed and meets no fault succeeds.
-/

namespace Storefront

open Session

variable {context : Context} {p p' : Progress} {purchase : Purchase}

/-- What an order comes to fits its column. -/
theorem Purchase.StoredIn.total_fits {t : Tables} (h : purchase.StoredIn t) (ready : t.Ready) :
    fitsNumeric 12 purchase.order.finalTotal := by
  obtain ⟨items, hlisted⟩ := OrderItem.exists_listedIn ready.lawful.coherent purchase.order.id
  have hperm : (items.map OrderItem.row).Perm (purchase.items.map OrderItem.row) := by
    rw [← h.items_eq]
    exact hlisted.perm
  have hsame : Order.openTotal items = Order.openTotal purchase.items := by
    rw [← ItemRow.openTotal_map_row, ItemRow.openTotal_perm hperm, ItemRow.openTotal_map_row]
  rw [h.finalTotal_eq ready.lawful, ← hsame]
  exact hlisted.openTotal_fits ready.composed h.order_mem rfl

namespace Purchase.Writable

/-- A payment that is to be paid on delivery can be written back. -/
theorem succeeds_payOnDelivery (h : purchase.Writable p) (paidAt : Instant) :
    Succeeds (purchase.payment.forM (Order.payOnDelivery paidAt)) context p := by
  have hfound := h.payment_found
  generalize purchase.payment = payment at hfound
  cases payment with
  | none => exact succeeds_pure _
  | some payment =>
    change Succeeds (Order.payOnDelivery paidAt payment) context p
    by_cases hpending : payment.status = .pending
    · rw [Order.payOnDelivery, if_pos hpending]
      exact (Payment.succeeds_save_of_follows h.calm h.sound hfound.mem.1
        (Payment.follows_of_found h.sound hfound .paid (some paidAt))).discard
    · rw [Order.payOnDelivery, if_neg hpending]
      exact succeeds_pure _

/-- An order that is not cancelled can be settled for its next state. -/
theorem succeeds_settle (h : purchase.Writable p) {next : OrderStatus} (now : Instant)
    (uncancelled : next ≠ .cancelled) :
    Succeeds (Order.settle next now purchase.order purchase.payment) context p := by
  cases next with
  | delivered =>
    obtain ⟨⟨⟩, last, hpaid⟩ : Succeeds (purchase.payment.forM
        (Order.payOnDelivery (purchase.order.paidAt.getD now))) context p :=
      h.succeeds_payOnDelivery _
    exact hpaid.bind (succeeds_pure _)
  | cancelled => exact absurd rfl uncancelled
  | _ => exact succeeds_pure _

end Purchase.Writable

namespace Purchase.StoredIn

/-- An order can be moved to any state that it may be moved to. -/
theorem succeeds_moveTo (h : purchase.StoredIn p.tables) (calm : p.fault = none)
    (ready : p.tables.Ready) {next : OrderStatus} (allowed : purchase.order.status.canBecome next) :
    Succeeds (Order.move purchase.order.id next) context p := by
  by_cases hcancelled : next = .cancelled
  · subst hcancelled
    exact h.succeeds_move calm ready allowed
  have hwritable := Writable.of_storedIn calm ready.lawful h
  unfold Order.move
  apply Succeeds.transaction
  refine h.succeeds_onOrder calm ?_
  refine Returns.bind (a := ⟨⟩) (returns_require.mpr ⟨allowed, rfl⟩) ?_
  refine (returns_wallTime.mpr ⟨rfl, rfl⟩).bind ?_
  have hkept : Returns (Order.emptyOnCancel next context.clock.wall purchase.order) context p
      purchase.order p := by
    rw [Order.emptyOnCancel, if_neg hcancelled]
    exact returns_pure.mpr ⟨rfl, rfl⟩
  refine hkept.bind ?_
  refine (h.returns_findPayment calm).bind ?_
  obtain ⟨settled, last, hsettle⟩ : Succeeds
      (Order.settle next context.clock.wall purchase.order purchase.payment) context p :=
    hwritable.succeeds_settle _ hcancelled
  refine hsettle.bind ?_
  obtain ⟨hmoved, hchanged⟩ : { settled with status := next } =
        (purchase.order.moved next context.clock.wall purchase.payment).1 ∧
      last.tables = { p.tables with
        payments := Payment.writeTo context.clock.store
          (purchase.order.moved next context.clock.wall purchase.payment).2 p.tables.payments } :=
    Order.returns_settle calm (by rwa [if_neg hcancelled])
  obtain ⟨saved, after, hsave⟩ : Succeeds (Order.save { settled with status := next }) context
      last := by
    rw [hmoved]
    refine Order.succeeds_save (hsettle.fault_eq_none calm) (hwritable.order_found_written hchanged)
      (Order.fixed_moved _ _ _ _) ?_
    rw [Order.finalTotal_moved, if_neg hcancelled]
    exact h.total_fits ready
  exact hsave.bind (succeeds_pure _)

/-- A payment of the order that is paid can be refunded. -/
theorem succeeds_refundForOrder (h : purchase.StoredIn p.tables) (calm : p.fault = none)
    (ready : p.tables.Ready) {payment : Payment} (found : purchase.payment = some payment)
    (paid : payment.status = .paid) :
    Succeeds (Payment.refundForOrder purchase.order.id) context p := by
  have hfound := h.payment_found
  rw [found] at hfound
  exact Payment.succeeds_refundForOrder calm ready.lawful.settled.sound h.order_found
    (h.total_fits ready) hfound paid

end Purchase.StoredIn

namespace Payment

variable {order : Order} {payment : Payment}

/-- A payment can be settled with its order. -/
theorem succeeds_settle (calm : p.fault = none) (sound : PaymentRow.Sound p.tables.payments)
    (order_found : p.tables.orders.find? (fun row => row.id = order.id) = some order.row)
    (stored : payment.row ∈ p.tables.payments) (fits : fitsNumeric 12 order.finalTotal) :
    Succeeds (settle order payment) context p := by
  have hfollows : payment.Follows (payment.confirmed .paid context.clock.wall) := ⟨rfl, rfl, rfl⟩
  have hfound : p.tables.payments.find? (fun row => row.id = payment.id) = some payment.row :=
    (find?_key_iff sound.key).mpr ⟨stored, rfl⟩
  obtain ⟨saved, middle, hsave⟩ :
      Succeeds (save (payment.confirmed .paid context.clock.wall)) context p :=
    succeeds_save_of_follows calm sound stored hfollows
  obtain ⟨rfl, -, htables⟩ := returns_save_of_found calm hfound hfollows.fixed hsave
  have hfixed : (settledBy order payment context.clock.wall).fixed = order.fixed := rfl
  have hmark :
      Succeeds (Order.save (settledBy order payment context.clock.wall)) context middle := by
    refine Order.succeeds_save (hsave.fault_eq_none calm) ?_ hfixed fits
    rw [htables]
    exact order_found
  obtain ⟨⟨⟩, last, hmarked⟩ := hmark.discard
  refine (returns_wallTime.mpr ⟨rfl, rfl⟩).bind (hsave.bind ?_)
  exact hmarked.bind (succeeds_pure _)

/-- The next payment has an identifier of its own, as long as the sequence has not run out. -/
theorem fresh_of_numbered {store : Store} (numbered : store.Numbered)
    (few : store.sequences.payment < twoTo 48) :
    ∀ row ∈ store.tables.payments, row.id ≠ Uuid.numbered store.sequences.payment := by
  intro row hrow hsame
  obtain ⟨n, hn, hid⟩ := numbered.payments row.id (List.mem_map_of_mem hrow)
  have heq : n = store.sequences.payment :=
    Uuid.numbered_inj (Nat.lt_trans hn few) few (hid.symm.trans hsame)
  omega

variable {currency : String} {method : PaymentMethod} {amount : Cents} {id : OrderId}

/-- A payment can be created for an order that has none. -/
theorem succeeds_create (calm : p.fault = none)
    (owner : ∃ row ∈ p.tables.orders, row.id = id)
    (unpaid : ∀ row ∈ p.tables.payments, row.orderId ≠ id)
    (fresh : ∀ row ∈ p.tables.payments, row.id ≠ Uuid.numbered p.sequences.payment)
    (amount_fits : fitsNumeric 12 amount) (currency_fits : fitsVarchar 8 currency) :
    Succeeds (create id method amount currency) context p := by
  unfold create
  refine (returns_storeTime.mpr ⟨rfl, rfl⟩).bind ((returns_sequences.mpr ⟨rfl, rfl⟩).bind ?_)
  refine Returns.bind (a := ()) ((Table.returns_insert calm).mpr ⟨?_, rfl⟩) (succeeds_pure _)
  obtain ⟨row, hrow, hid⟩ := owner
  simp only [Bool.and_eq_true, List.any_eq_true, List.all_eq_true, decide_eq_true_eq]
  exact ⟨⟨⟨amount_fits, currency_fits⟩, row, hrow, hid⟩,
    fun other hother => ⟨fresh other hother, unpaid other hother⟩⟩

/-- A payment just created can be given its reference. -/
theorem succeeds_save_opened {rows : List PaymentRow} {uuid : Uuid} {reference : String}
    (calm : p.fault = none)
    (stored : p.tables.payments =
      rows ++ [(opened context.clock currency uuid id amount method none).row])
    (fresh : ∀ row ∈ rows, row.id ≠ uuid) (fits : fitsVarchar 128 reference)
    (unused : ∀ row ∈ rows, row.gatewayId ≠ some reference) :
    Succeeds (save (opened context.clock currency uuid id amount method (some reference))) context
      p := by
  have hfound : p.tables.payments.find? (fun row => row.id = uuid) =
      some (opened context.clock currency uuid id amount method none).row := by
    rw [stored]
    exact find?_opened fresh
  have hfixed : (opened context.clock currency uuid id amount method (some reference)).fixed =
    (opened context.clock currency uuid id amount method none).fixed := rfl
  refine ⟨_, _, (returns_save calm).mpr ⟨_, hfound, ?_, (overwrite_row hfixed).symm, rfl⟩⟩
  rw [overwrite_row hfixed]
  simp only [isStorable, Bool.and_eq_true, List.all_eq_true, Bool.or_eq_true, decide_eq_true_eq,
    row, stamp, opened, Option.all_some, Option.all_none, and_true]
  refine ⟨fits, fun other hother => ?_⟩
  rw [stored, List.mem_append, List.mem_singleton] at hother
  rcases hother with hold | rfl
  · exact .inr (unused other hold)
  · exact .inl (decide_eq_true rfl)

/-- A pending order without a payment can get one. -/
theorem succeeds_openIntent (calm : p.fault = none) (sound : PaymentRow.Sound p.tables.payments)
    (order_found : p.tables.orders.find? (fun row => row.id = order.id) = some order.row)
    (pending : order.status = .pending) (unpaid : FoundIn order.id none p.tables.payments)
    (referenced : ∀ payment : Payment, payment.row ∈ p.tables.payments → payment.Referenced)
    (fresh : ∀ row ∈ p.tables.payments, row.id ≠ Uuid.numbered p.sequences.payment)
    (total_fits : fitsNumeric 12 order.finalTotal) (currency_fits : fitsVarchar 8 currency) :
    Succeeds (openIntent order.userId order.id method currency) context p := by
  have hunpaid : ∀ row ∈ p.tables.payments, row.orderId ≠ order.id := find?_key_eq_none.mp unpaid
  obtain ⟨blank, middle, hcreate⟩ :
      Succeeds (create order.id method order.finalTotal currency) context p :=
    succeeds_create calm ⟨_, mem_of_find?_key order_found⟩ hunpaid fresh total_fits currency_fits
  obtain ⟨rfl, -, -, -, htables⟩ := returns_create calm hcreate
  unfold openIntent
  apply Succeeds.transaction
  refine Returns.bind (a := some order) ((Order.returns_find calm).mpr ⟨order_found, rfl⟩) ?_
  refine (returns_found.mpr ⟨rfl, rfl⟩).bind ?_
  refine Returns.bind (a := ⟨⟩) (Order.returns_requireOwner.mpr ⟨rfl, rfl⟩) ?_
  refine Returns.bind (a := ⟨⟩) (returns_require.mpr ⟨decide_eq_true pending, rfl⟩) ?_
  refine ((returns_findForOrder calm).mpr ⟨unpaid, rfl⟩).bind ?_
  refine Returns.bind (a := ⟨⟩) (returns_require.mpr ⟨rfl, rfl⟩) (hcreate.bind ?_)
  cases hreference : gatewayReference method (Uuid.numbered p.sequences.payment) with
  | none =>
    simp only [opened, hreference]
    exact succeeds_pure _
  | some reference =>
    have hsaved : Succeeds (save (opened context.clock currency
        (Uuid.numbered p.sequences.payment) order.id order.finalTotal method (some reference)))
        context middle :=
      succeeds_save_opened (hcreate.fault_eq_none calm) (congrArg (·.payments) htables) fresh
        (gatewayReference_fits hreference) (reference_fresh sound referenced fresh hreference)
    obtain ⟨saved, last, hsave⟩ := hsaved
    simp only [opened, hreference]
    exact Returns.bind hsave (succeeds_pure _)

end Payment

end Storefront
