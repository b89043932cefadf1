import Storefront.Proofs.Payment.Operations
import Storefront.Proofs.Store.Constraints

/-!
Payments as the service writes them. Every row stands for a payment, no two belong to one order or
have one reference, and only payments that go through a gateway have a reference. Writing back the
payment of an order keeps all this.
-/

namespace Storefront

/-- The payments are as the service writes them. -/
structure PaymentRow.Sound (rows : List PaymentRow) : Prop where
  key : (rows.map (·.id)).Nodup
  one_per_order : (rows.map (·.orderId)).Nodup
  read : ∀ row ∈ rows, ∃ payment : Payment, row = payment.row
  reference_fits : ∀ row ∈ rows, row.gatewayId.all (fitsVarchar 128)
  reference_unique : ∀ row ∈ rows, ∀ other ∈ rows, ∀ reference,
    row.gatewayId = some reference → other.gatewayId = some reference → row.id = other.id
  reason_fits : ∀ row ∈ rows, row.failureReason.all fitsText
  online : ∀ row ∈ rows, row.gatewayId.isSome → row.method ≠ word PaymentMethod.cod

namespace Payment

/-- A payment as it may be written back: what never changes is kept and so is the reference. -/
structure Follows (payment next : Payment) : Prop where
  fixed : next.fixed = payment.fixed
  gatewayId_eq : next.gatewayId = payment.gatewayId
  reason_fits : next.failureReason.all fitsText

/-- The payment that is written back, if there is one, is that of an order. -/
def FollowsIn (id : OrderId) (rows : List PaymentRow) (next? : Option Payment) : Prop :=
  ∀ next, next? = some next → ∃ payment : Payment,
    payment.row ∈ rows ∧ payment.orderId = id ∧ payment.Follows next

variable {id : OrderId} {now : Instant} {rows : List PaymentRow} {payment next : Payment}
  {payment? next? : Option Payment}

theorem FoundIn.mem (h : FoundIn id (some payment) rows) :
    payment.row ∈ rows ∧ payment.orderId = id :=
  mem_of_find?_key h

/-- The payment found for an order is the only one of that order. -/
theorem FoundIn.eq_of_mem (sound : PaymentRow.Sound rows) (h : FoundIn id payment? rows)
    {row : PaymentRow} (hrow : row ∈ rows) (horder : row.orderId = id) :
    payment?.map Payment.row = some row :=
  h.symm.trans ((find?_key_iff sound.one_per_order).mpr ⟨hrow, horder⟩)

/-- A payment with another state follows what was found. -/
theorem follows_of_found (sound : PaymentRow.Sound rows) (h : FoundIn id (some payment) rows)
    (status : PaymentStatus) (paidAt : Option Instant) :
    payment.Follows { payment with status, paidAt } :=
  ⟨rfl, rfl, sound.reason_fits payment.row h.mem.1⟩

theorem FoundIn.followsIn (h : FoundIn id (some payment) rows) (follows : payment.Follows next) :
    FollowsIn id rows (some next) := by
  rintro _ ⟨⟩
  exact ⟨payment, h.mem.1, h.mem.2, follows⟩

theorem followsIn_none : FollowsIn id rows none := by
  rintro _ ⟨⟩

/-- A row after the payment of an order is written back. -/
theorem mem_writeTo (sound : PaymentRow.Sound rows) (follows : FollowsIn id rows next?)
    {row : PaymentRow} (hrow : row ∈ writeTo now next? rows) :
    (row ∈ rows ∧ (next? = none ∨ row.orderId ≠ id)) ∨
      ∃ next, next? = some next ∧ row = (next.stamp now).row := by
  cases next? with
  | none => exact .inl ⟨hrow, .inl rfl⟩
  | some next =>
    obtain ⟨payment, hstored, horder, hnext⟩ := follows next rfl
    have hid : next.id = payment.id := id_of_fixed hnext.fixed
    obtain ⟨old, hold, rfl⟩ := mem_updateWhere.mp hrow
    by_cases hsame : old.id = next.id
    · right
      obtain rfl : old = payment.row :=
        eq_of_key_eq sound.key hold hstored (hsame.trans hid)
      refine ⟨next, rfl, ?_⟩
      rw [if_pos (decide_eq_true hsame), overwrite_row hnext.fixed]
    · left
      rw [if_neg fun h => hsame (of_decide_eq_true h)]
      refine ⟨hold, .inr fun howner => hsame ?_⟩
      obtain rfl : old = payment.row :=
        eq_of_key_eq sound.one_per_order hold hstored (howner.trans horder.symm)
      exact hid.symm

/-- Writing back a payment changes its row alone. -/
theorem writeTo_eq {g : PaymentRow → PaymentRow} (key : (rows.map (·.id)).Nodup)
    (stored : payment.row ∈ rows) (fixed : next.fixed = payment.fixed)
    (h : g payment.row = (next.stamp now).row) :
    writeTo now (some next) rows = updateWhere (fun row => row.id = payment.id) g rows := by
  refine updateWhere_congr (fun row _ => ?_) fun row hrow hid => ?_
  · rw [id_of_fixed fixed]
  · rw [decide_eq_true_eq, id_of_fixed fixed] at hid
    obtain rfl : row = payment.row := eq_of_key_eq key hrow stored hid
    rw [overwrite_row fixed, h]

/-- A payment that is written back is one of the payments. -/
theorem mem_writeTo_self (stored : payment.row ∈ rows) (fixed : next.fixed = payment.fixed) :
    (next.stamp now).row ∈ writeTo now (some next) rows := by
  have hid : payment.row.id = next.id := (id_of_fixed fixed).symm
  refine mem_updateWhere.mpr ⟨payment.row, stored, ?_⟩
  rw [if_pos (decide_eq_true hid), overwrite_row fixed]

/-- The payment of an order is the only row of that order that changes when it is written back. -/
theorem writeTo_found {g : PaymentRow → PaymentRow} (sound : PaymentRow.Sound rows)
    (found : FoundIn id (some payment) rows) (fixed : next.fixed = payment.fixed)
    (h : g payment.row = (next.stamp now).row) :
    writeTo now (some next) rows = updateWhere (fun row => row.orderId = id) g rows := by
  obtain ⟨hstored, howner⟩ := found.mem
  rw [writeTo_eq sound.key hstored fixed h]
  refine updateWhere_congr (fun row hrow => decide_eq_decide.mpr ⟨fun hid => ?_, fun hsame => ?_⟩)
    fun _ _ _ => rfl
  · obtain rfl : row = payment.row := eq_of_key_eq sound.key hrow hstored hid
    exact howner
  · obtain rfl : row = payment.row :=
      eq_of_key_eq sound.one_per_order hrow hstored (hsame.trans howner.symm)
    rfl

/-- Writing back the payment of an order, if it is one of those that are chosen, changes the chosen
rows of that order. -/
theorem writeTo_filter_map {q : Payment → Bool} {f : Payment → Payment} {q' : PaymentRow → Bool}
    {g : PaymentRow → PaymentRow} (sound : PaymentRow.Sound rows) (found : FoundIn id payment? rows)
    (hq : ∀ payment : Payment, q' payment.row = q payment)
    (hf : ∀ payment : Payment, (f payment).fixed = payment.fixed)
    (hg : ∀ payment : Payment, g payment.row = ((f payment).stamp now).row) :
    writeTo now ((payment?.filter q).map f) rows =
      updateWhere (fun row => row.orderId = id && q' row) g rows := by
  have howned {row : PaymentRow} (hrow : row ∈ rows) (howner : row.orderId = id) :
      payment?.map Payment.row = some row := found.eq_of_mem sound hrow howner
  cases payment? with
  | none =>
    refine (updateWhere_eq_self fun row hrow => ?_).symm
    have hother : row.orderId ≠ id := fun howner => by simpa using howned hrow howner
    rw [decide_eq_false hother, Bool.false_and]
  | some payment =>
    by_cases hchosen : q payment
    · have hfiltered : (some payment).filter q = some payment := by simp [hchosen]
      rw [hfiltered, Option.map_some, writeTo_found sound found (hf payment) (hg payment)]
      refine updateWhere_congr (fun row hrow => ?_) fun _ _ _ => rfl
      by_cases hsame : row.orderId = id
      · obtain rfl : payment.row = row := Option.some.inj (howned hrow hsame)
        rw [hq, hchosen, Bool.and_true]
      · rw [decide_eq_false hsame, Bool.false_and]
    · have hfiltered : (some payment).filter q = none := by simp [hchosen]
      rw [hfiltered]
      refine (updateWhere_eq_self fun row hrow => ?_).symm
      by_cases hsame : row.orderId = id
      · obtain rfl : payment.row = row := Option.some.inj (howned hrow hsame)
        rw [hq, Bool.eq_false_iff.mpr hchosen, Bool.and_false]
      · rw [decide_eq_false hsame, Bool.false_and]

/-- The payments of the other orders stay as they are. -/
theorem mem_of_mem_writeTo (sound : PaymentRow.Sound rows) (follows : FollowsIn id rows next?)
    (hpayment : payment.row ∈ writeTo now next? rows) (horder : payment.orderId ≠ id) :
    payment.row ∈ rows := by
  rcases mem_writeTo sound follows hpayment with ⟨hstored, -⟩ | ⟨next, hnext, heq⟩
  · exact hstored
  · obtain ⟨old, -, howner, hfollows⟩ := follows next hnext
    obtain rfl := row_injective heq
    exact absurd ((orderId_of_fixed hfollows.fixed).trans howner) horder

/-- Rows that are chosen by their orders stay as they are if that order is not among them. -/
theorem filter_writeTo_of_false (sound : PaymentRow.Sound rows) (follows : FollowsIn id rows next?)
    {q : OrderId → Bool} (hq : q id = false) :
    (writeTo now next? rows).filter (fun row => q row.orderId) =
      rows.filter fun row => q row.orderId := by
  cases next? with
  | none => rfl
  | some next =>
    obtain ⟨payment, hstored, horder, hfollows⟩ := follows next rfl
    have hid : next.id = payment.id := id_of_fixed hfollows.fixed
    refine filter_updateWhere_eq (fun _ => rfl)
      fun row hrow howner => decide_eq_false fun hsame => ?_
    obtain rfl : row = payment.row := eq_of_key_eq sound.key hrow hstored (hsame.trans hid)
    have howned : q payment.orderId = true := howner
    rw [horder, hq] at howned
    cases howned

/-- The rows of the other orders stay as they are. -/
theorem filter_writeTo (sound : PaymentRow.Sound rows) (follows : FollowsIn id rows next?)
    {other : OrderId} (hne : other ≠ id) :
    (writeTo now next? rows).filter (fun row => row.orderId = other) =
      rows.filter fun row => row.orderId = other :=
  filter_writeTo_of_false (q := fun id => decide (id = other)) sound follows
    (decide_eq_false hne.symm)

theorem map_writeTo {κ : Type} {key : PaymentRow → κ}
    (h : ∀ payment row, key (overwrite payment now row) = key row) :
    (writeTo now next? rows).map key = rows.map key := by
  cases next? with
  | none => rfl
  | some next => exact map_updateWhere (h next)

end Payment

namespace PaymentRow.Sound

variable {id : OrderId} {now : Instant} {rows : List PaymentRow} {next? : Option Payment}

/-- Every row that is written back keeps the identifier, the method and the reference of a row that
was there. -/
theorem exists_old (sound : Sound rows) (follows : Payment.FollowsIn id rows next?)
    {row : PaymentRow} (hrow : row ∈ Payment.writeTo now next? rows) :
    ∃ old ∈ rows, row.id = old.id ∧ row.method = old.method ∧ row.gatewayId = old.gatewayId := by
  rcases Payment.mem_writeTo sound follows hrow with ⟨hold, -⟩ | ⟨next, hnext, rfl⟩
  · exact ⟨row, hold, rfl, rfl, rfl⟩
  · obtain ⟨payment, hstored, -, hfollows⟩ := follows next hnext
    have hid : next.id = payment.id := Payment.id_of_fixed hfollows.fixed
    have hmethod : next.method = payment.method := Payment.method_of_fixed hfollows.fixed
    exact ⟨payment.row, hstored, hid, congrArg word hmethod, hfollows.gatewayId_eq⟩

theorem writeTo (sound : Sound rows) (follows : Payment.FollowsIn id rows next?) :
    Sound (Payment.writeTo now next? rows) := by
  constructor
  · rw [Payment.map_writeTo fun _ _ => rfl]
    exact sound.key
  · rw [Payment.map_writeTo fun _ _ => rfl]
    exact sound.one_per_order
  · intro row hrow
    rcases Payment.mem_writeTo sound follows hrow with ⟨hold, -⟩ | ⟨next, -, rfl⟩
    · exact sound.read row hold
    · exact ⟨next.stamp now, rfl⟩
  · intro row hrow
    obtain ⟨old, hold, -, -, hreference⟩ := sound.exists_old follows hrow
    rw [hreference]
    exact sound.reference_fits old hold
  · intro row hrow other hother reference h h'
    obtain ⟨old, hold, hid, -, hreference⟩ := sound.exists_old follows hrow
    obtain ⟨old', hold', hid', -, hreference'⟩ := sound.exists_old follows hother
    rw [hreference] at h
    rw [hreference'] at h'
    rw [hid, hid']
    exact sound.reference_unique old hold old' hold' reference h h'
  · intro row hrow
    rcases Payment.mem_writeTo sound follows hrow with ⟨hold, -⟩ | ⟨next, hnext, rfl⟩
    · exact sound.reason_fits row hold
    · obtain ⟨payment, -, -, hfollows⟩ := follows next hnext
      exact hfollows.reason_fits
  · intro row hrow hsome
    obtain ⟨old, hold, -, hmethod, hreference⟩ := sound.exists_old follows hrow
    rw [hreference] at hsome
    rw [hmethod]
    exact sound.online old hold hsome

/-- A payment that an intent creates joins the others. -/
theorem opened {clock : Clock} {currency : String} {user : UserId} {method : PaymentMethod}
    {number : Nat} {t t' : Tables} {order : Order} {payment : Payment}
    (sound : Sound t.payments)
    (h : Payment.Opened clock currency user id method number t order payment t') :
    Sound t'.payments := by
  have hrows : t'.payments = t.payments ++ [payment.row] := by
    rw [h.changed]
  have horder : payment.orderId = id := by
    rw [h.payment_eq]
    rfl
  have hmem {row : PaymentRow} (hrow : row ∈ t.payments ++ [payment.row]) :
      row ∈ t.payments ∨ row = payment.row := by
    rw [List.mem_append, List.mem_singleton] at hrow
    exact hrow
  rw [hrows]
  constructor
  · refine nodup_keys_append sound.key (List.nodup_singleton _) ?_
    rintro _ (_ | ⟨_, ⟨⟩⟩)
    exact h.fresh
  · refine nodup_keys_append sound.one_per_order (List.nodup_singleton _) ?_
    rintro _ (_ | ⟨_, ⟨⟩⟩) other hother
    exact fun hsame => h.unpaid other hother (hsame.trans horder)
  · intro row hrow
    rcases hmem hrow with hrow | rfl
    · exact sound.read row hrow
    · exact ⟨payment, rfl⟩
  · intro row hrow
    rcases hmem hrow with hrow | rfl
    · exact sound.reference_fits row hrow
    · exact h.reference_fits
  · intro row hrow other hother reference hreference hreference'
    rcases hmem hrow with hrow | rfl
    · rcases hmem hother with hother | rfl
      · exact sound.reference_unique row hrow other hother reference hreference hreference'
      · exact absurd hreference (h.reference_fresh row hrow reference hreference')
    · rcases hmem hother with hother | rfl
      · exact absurd hreference' (h.reference_fresh other hother reference hreference)
      · rfl
  · intro row hrow
    rcases hmem hrow with hrow | rfl
    · exact sound.reason_fits row hrow
    · rw [h.payment_eq]
      rfl
  · intro row hrow hsome
    rcases hmem hrow with hrow | rfl
    · exact sound.online row hrow hsome
    · rw [h.payment_eq] at hsome ⊢
      cases method with
      | cod => cases hsome
      | _ => simp [Payment.row, Payment.opened]

/-- Any payment can be written back as far as its reference is concerned. -/
theorem isStorable {t : Tables} (sound : Sound t.payments) {payment next : Payment}
    (stored : payment.row ∈ t.payments) (follows : payment.Follows next) (now : Instant) :
    Payment.isStorable t (next.stamp now).row := by
  have hfits := sound.reference_fits payment.row stored
  have hid : next.id = payment.id := Payment.id_of_fixed follows.fixed
  unfold Payment.isStorable
  rw [Bool.and_eq_true]
  refine ⟨?_, follows.reason_fits⟩
  rw [Option.all_eq_true]
  intro reference hreference
  have hsame : payment.row.gatewayId = some reference := follows.gatewayId_eq.symm.trans hreference
  rw [hsame, Option.all_some] at hfits
  rw [Bool.and_eq_true, List.all_eq_true]
  refine ⟨hfits, fun row hrow => ?_⟩
  rw [Bool.or_eq_true, decide_eq_true_eq, decide_eq_true_eq]
  by_cases hrowReference : row.gatewayId = some reference
  · left
    have hrowId := sound.reference_unique row hrow payment.row stored reference hrowReference hsame
    exact hrowId.trans hid.symm
  · exact .inr hrowReference

end PaymentRow.Sound

/-- A stored payment can be written back if what never changes is kept and so is the reference. -/
theorem Payment.succeeds_save_of_follows {context : Context} {p : Progress} {payment next : Payment}
    (calm : p.fault = none) (sound : PaymentRow.Sound p.tables.payments)
    (stored : payment.row ∈ p.tables.payments) (follows : payment.Follows next) :
    Session.Succeeds (save next) context p := by
  have hfound : p.tables.payments.find? (fun row => row.id = next.id) = some payment.row := by
    rw [id_of_fixed follows.fixed]
    exact (find?_key_iff sound.key).mpr ⟨stored, rfl⟩
  have hstorable := sound.isStorable stored follows context.clock.store
  rw [← overwrite_row follows.fixed] at hstorable
  exact ⟨_, _, (returns_save calm).mpr
    ⟨payment.row, hfound, hstorable, (overwrite_row follows.fixed).symm, rfl⟩⟩

/-- The payment of an order can be written back with another state. -/
theorem Payment.succeeds_save {context : Context} {p : Progress} {id : OrderId} {payment : Payment}
    (calm : p.fault = none) (sound : PaymentRow.Sound p.tables.payments)
    (found : FoundIn id (some payment) p.tables.payments) (status : PaymentStatus) :
    Session.Succeeds (save { payment with status }) context p :=
  succeeds_save_of_follows calm sound found.mem.1
    (follows_of_found sound found status payment.paidAt)

end Storefront
