import Storefront.Proofs.Purchase.Evolution

/-!
References of gateways. A reference is made of a label and of the digits of a payment's identifier;
it tells both the method and the payment. A payment keeps the reference that it was created with.
-/

namespace Storefront

/-- The payment has the reference that it was created with. -/
def Payment.Referenced (payment : Payment) : Prop :=
  payment.gatewayId = gatewayReference payment.method payment.id

namespace Text

theorem digitChar_inj {a b : Nat} (ha : a < 16) (hb : b < 16)
    (h : Nat.digitChar a = Nat.digitChar b) : a = b := by
  have hall : ∀ a b : Fin 16, Nat.digitChar a = Nat.digitChar b → a = b := by decide
  exact congrArg Fin.val (hall ⟨a, ha⟩ ⟨b, hb⟩ h)

/-- Numbers of so many hexadecimal digits are told apart by them. -/
theorem fixedDigits_inj {width n m : Nat} (hn : n < Nat.pow 16 width) (hm : m < Nat.pow 16 width)
    (h : fixedDigits 16 width n = fixedDigits 16 width m) : n = m := by
  induction width generalizing n m with
  | zero =>
    have hone : Nat.pow 16 0 = 1 := rfl
    omega
  | succ width ih =>
    have hlength : (fixedDigits 16 width (n / 16)).length =
        (fixedDigits 16 width (m / 16)).length := by simp
    obtain ⟨hfront, hlast⟩ := List.append_inj h hlength
    have hpow : Nat.pow 16 (width + 1) = Nat.pow 16 width * 16 := rfl
    have hquotient : n / 16 = m / 16 :=
      ih (Nat.div_lt_of_lt_mul (by omega)) (Nat.div_lt_of_lt_mul (by omega)) hfront
    have hrest : n % 16 = m % 16 :=
      digitChar_inj (Nat.mod_lt _ (by decide)) (Nat.mod_lt _ (by decide)) (List.cons.inj hlast).1
    omega

/-- Hexadecimal digits are no NUL characters. -/
theorem nul_not_mem_fixedDigits (width n : Nat) : '\x00' ∉ fixedDigits 16 width n := by
  have hdigit : ∀ d : Fin 16, '\x00' ≠ Nat.digitChar d := by decide
  induction width generalizing n with
  | zero => exact List.not_mem_nil
  | succ width ih =>
    rw [fixedDigits, List.mem_append, List.mem_singleton, not_or]
    exact ⟨ih _, hdigit ⟨n % 16, Nat.mod_lt _ (by decide)⟩⟩

end Text

namespace Uuid

theorem hexDigits_injective : Function.Injective hexDigits := by
  intro a b h
  have hbits := Text.fixedDigits_inj a.bits.isLt b.bits.isLt h
  obtain ⟨bits⟩ := a
  obtain ⟨bits'⟩ := b
  exact congrArg Uuid.mk (BitVec.eq_of_toNat_eq hbits)

/-- As many payments as the last group of digits can count have identifiers of their own. -/
theorem numbered_inj {n m : Nat} (hn : n < twoTo 48) (hm : m < twoTo 48)
    (h : numbered n = numbered m) : n = m := by
  have hbits := congrArg (fun id : Uuid => id.bits.toNat) h
  simp only [numbered, BitVec.toNat_ofNat] at hbits
  change n < 2 ^ 48 at hn
  change m < 2 ^ 48 at hm
  omega

end Uuid

namespace PaymentMethod

theorem gatewayLabel?_injective : Function.Injective gatewayLabel? := by
  intro a b h
  cases a <;> cases b <;> first | rfl | simp [gatewayLabel?] at h

theorem label_fits {method : PaymentMethod} {label : String}
    (h : method.gatewayLabel? = some label) : '\x00' ∉ label.toList ∧ label.length ≤ 14 := by
  cases method <;> simp only [gatewayLabel?, Option.some.injEq, reduceCtorEq] at h <;> subst h <;>
    decide

end PaymentMethod

variable {method method' : PaymentMethod} {id id' : Uuid} {reference : String}

theorem gatewayReference_eq_none : gatewayReference method id = none ↔ method = .cod := by
  cases method <;> simp [gatewayReference, PaymentMethod.gatewayLabel?]

/-- A reference tells the method and the payment. -/
theorem gatewayReference_inj (h : gatewayReference method id = some reference)
    (h' : gatewayReference method' id' = some reference) : method = method' ∧ id = id' := by
  obtain ⟨label, hlabel, rfl⟩ := Option.map_eq_some_iff.mp h
  obtain ⟨label', hlabel', heq⟩ := Option.map_eq_some_iff.mp h'
  have hlists := congrArg String.toList heq
  simp only [String.toList_append, String.toList_ofList] at hlists
  obtain ⟨hlabels, hdigits⟩ := List.append_inj' hlists (by simp [Uuid.hexDigits])
  have hsame : label' = label := String.toList_inj.mp (List.append_cancel_right hlabels)
  subst hsame
  exact ⟨PaymentMethod.gatewayLabel?_injective (hlabel.trans hlabel'.symm),
    (Uuid.hexDigits_injective hdigits).symm⟩

/-- Every reference fits its column. -/
theorem gatewayReference_fits (h : gatewayReference method id = some reference) :
    fitsVarchar 128 reference := by
  obtain ⟨label, hlabel, rfl⟩ := Option.map_eq_some_iff.mp h
  obtain ⟨htext, hlength⟩ := PaymentMethod.label_fits hlabel
  have hdigits : (String.ofList id.hexDigits).length = 32 := by simp [Uuid.hexDigits]
  have hnul := Text.nul_not_mem_fixedDigits 32 id.bits.toNat
  rw [fitsVarchar, Bool.and_eq_true, decide_eq_true_eq, fitsText]
  refine ⟨?_, ?_⟩
  · simpa [Uuid.hexDigits] using ⟨htext, hnul⟩
  · have hbar : "_".length = 1 := rfl
    rw [String.length_append, String.length_append, hdigits, hbar]
    omega

/-- A payment with an identifier of its own has a reference of its own. -/
theorem reference_fresh {rows : List PaymentRow} (sound : PaymentRow.Sound rows)
    (referenced : ∀ payment : Payment, payment.row ∈ rows → payment.Referenced)
    (fresh : ∀ row ∈ rows, row.id ≠ id) (h : gatewayReference method id = some reference) :
    ∀ row ∈ rows, row.gatewayId ≠ some reference := by
  intro row hrow hsame
  obtain ⟨payment, rfl⟩ := sound.read row hrow
  have hown : gatewayReference payment.method payment.id = some reference :=
    (referenced payment hrow).symm.trans hsame
  exact fresh payment.row hrow (gatewayReference_inj hown h).2

namespace Purchase

variable {clock : Clock} {purchase next : Purchase}

/-- The payment of the purchase, if it has one, has the reference that it was created with. -/
def Referenced (purchase : Purchase) : Prop :=
  ∀ payment, purchase.payment = some payment → payment.Referenced

/-- No move of a purchase touches the reference of its payment. -/
theorem Move.referenced (h : purchase.Move clock next) (referenced : purchase.Referenced) :
    next.Referenced := by
  intro payment hpayment
  cases h with
  | cancelledPaid cancellable withdrawn emptied found paid =>
    cases hpayment
    have hreferenced := referenced _ found
    exact hreferenced
  | cancelledUnpaid =>
    obtain ⟨old, hold, rfl⟩ := Option.map_eq_some_iff.mp hpayment
    have hreferenced := referenced old hold
    unfold Payment.callOff
    split <;> exact hreferenced
  | delivered =>
    obtain ⟨old, hold, rfl⟩ := Option.map_eq_some_iff.mp hpayment
    have hreferenced := referenced old hold
    unfold Payment.collect
    split <;> exact hreferenced
  | intentCreated =>
    cases hpayment
    rfl
  | confirmed found =>
    cases hpayment
    have hreferenced := referenced _ found
    exact hreferenced
  | failed found =>
    cases hpayment
    have hreferenced := referenced _ found
    exact hreferenced
  | refunded found =>
    cases hpayment
    have hreferenced := referenced _ found
    exact hreferenced
  | _ => exact referenced payment hpayment

end Purchase

/-- Wherever a run has come to that began without orders, payments have the references that they
were created with. -/
theorem referenced_storeAfter {currency : String} {steps : List Step} {start : Store}
    (served : ∀ step ∈ steps, step.IsServed) (orders : start.tables.orders = [])
    (items : start.tables.orderItems = []) (payments : start.tables.payments = []) :
    ∀ payment : Payment, payment.row ∈ (storeAfter currency steps start).tables.payments →
      payment.Referenced := by
  intro payment hstored
  have hlawful : (storeAfter currency steps start).tables.Lawful :=
    lawful_storeAfter served (.of_empty orders items payments)
  obtain ⟨purchase, other, hrow, hpayment, hpurchase⟩ :=
    Purchase.StoredIn.exists_of_mem_payments hlawful hstored
  obtain rfl := Payment.row_injective hrow
  refine Purchase.invariant_storeAfter (I := Purchase.Referenced) (fun placed hplaced => ?_)
    (fun _ _ _ referenced move => move.referenced referenced) served orders items payments purchase
    hpurchase payment hpayment
  intro other hother
  simp [hplaced.no_payment] at hother

end Storefront
