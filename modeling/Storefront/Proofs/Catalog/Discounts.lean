import Mathlib.Data.Int.Cast.Lemmas
import Storefront.Proofs.Catalog.Pricing

/-!
Discounts take off a part of a price, however the quotient is rounded: what is left to pay lies
between nothing and the price.
-/

namespace Storefront

theorem roundQuotient_nonneg (tie : Tie) {n : Int} (d : Nat) (natural : 0 ≤ n) :
    0 ≤ roundQuotient tie n d := by
  simp only [roundQuotient, Int.not_lt.mpr natural, if_false]
  exact Int.natCast_nonneg _

/-- A quotient that is at most an integer is rounded to at most that integer. -/
theorem roundQuotient_le (tie : Tie) {n c : Int} {d : Nat} (positive : 0 < d) (natural : 0 ≤ n)
    (h : n ≤ c * d) : roundQuotient tie n d ≤ c := by
  obtain ⟨m, rfl⟩ := Int.eq_ofNat_of_zero_le natural
  have hc : 0 ≤ c := by
    by_contra hneg
    have := Int.mul_neg_of_neg_of_pos (Int.not_le.mp hneg) (Int.natCast_pos.mpr positive)
    omega
  obtain ⟨k, rfl⟩ := Int.eq_ofNat_of_zero_le hc
  have hle : m ≤ k * d := by exact_mod_cast h
  simp only [roundQuotient, Int.not_lt.mpr natural, if_false, Int.natAbs_natCast]
  refine Int.ofNat_le.mpr ?_
  have hquotient : m / d ≤ k := Nat.div_le_of_le_mul (by rwa [Nat.mul_comm])
  rcases Nat.lt_or_eq_of_le hquotient with hlt | heq
  · split <;> omega
  · -- The quotient is exact, and nothing is left that could round it up.
    have hrest : m % d = 0 := by
      have hdiv := Nat.div_add_mod m d
      rw [heq, Nat.mul_comm] at hdiv
      omega
    have hdown : tie.roundsUp (m / d) (m % d) d = false := by
      simp [Tie.roundsUp, hrest, Nat.ne_of_lt positive]
    rw [hdown, heq]
    simp

namespace Decimal

/-- A number with two places at least that lies between zero and so many hundredths. -/
structure Within (cents : Cents) (d : Decimal) : Prop where
  places : 2 ≤ d.places
  natural : 0 ≤ d.mantissa
  bounded : d.mantissa ≤ cents * tenTo (d.places - 2)

theorem tenTo_add (a b : Nat) : tenTo (a + b) = tenTo a * tenTo b :=
  Nat.pow_add 10 a b

theorem ofInt_lt_ofHundredths {a b : Int} : ofInt a < ofHundredths b ↔ a * 100 < b := by
  change lt (ofInt a) (ofHundredths b) ↔ _
  simp [lt, mantissaAt, ofInt, ofHundredths, tenTo]

theorem ofHundredths_lt_ofInt {a b : Int} : ofHundredths a < ofInt b ↔ a < b * 100 := by
  change lt (ofHundredths a) (ofInt b) ↔ _
  simp [lt, mantissaAt, ofInt, ofHundredths, tenTo]

theorem droppedDigits_le (m : Nat) : droppedDigits m ≤ 2 := by
  unfold droppedDigits
  split_ifs <;> omega

variable {cents : Cents} {d : Decimal}

theorem Within.of_ofHundredths (natural : 0 ≤ cents) : (ofHundredths cents).Within cents :=
  ⟨Nat.le_refl 2, natural, by simp [ofHundredths]⟩

/-- A hundredth of a number is at most so many hundredths if the number is at most so much. -/
theorem within_hundredth (places : 2 ≤ d.places) (natural : 0 ≤ d.mantissa)
    (bounded : d.mantissa ≤ cents * tenTo d.places) : d.hundredth.Within cents := by
  have hdropped := droppedDigits_le d.mantissa.natAbs
  refine ⟨?_, roundQuotient_nonneg _ _ natural, roundQuotient_le _ (tenTo_pos _) natural ?_⟩
  · simp only [hundredth]
    omega
  · refine Int.le_trans bounded (Int.le_of_eq ?_)
    have hsplit : d.places =
        d.hundredth.places - 2 + droppedDigits d.mantissa.natAbs := by
      simp only [hundredth]
      omega
    conv_lhs => rw [hsplit, tenTo_add]
    rw [Nat.cast_mul, Int.mul_assoc]

theorem Within.round (h : d.Within cents) (tie : Tie) : (d.round tie 2).Within cents := by
  have hplaces := h.places
  unfold Decimal.round
  split
  next hfew =>
    have htwo : d.places = 2 := by omega
    have hbounded := h.bounded
    refine ⟨Nat.le_refl 2, ?_, ?_⟩
    · simpa [mantissaAt, htwo] using h.natural
    · simpa [mantissaAt, htwo] using hbounded
  next =>
    refine ⟨Nat.le_refl 2, roundQuotient_nonneg tie _ h.natural, ?_⟩
    have hbounded := roundQuotient_le tie (tenTo_pos _) h.natural h.bounded
    simpa using hbounded

theorem Within.toHundredths (h : d.Within cents) : 0 ≤ d.toHundredths ∧ d.toHundredths ≤ cents := by
  obtain ⟨-, hnatural, hbounded⟩ := h.round .awayFromZero
  rw [places_round, Nat.sub_self, tenTo_zero, Int.natCast_one, Int.mul_one] at hbounded
  exact ⟨hnatural, hbounded⟩

end Decimal

namespace Offer

/-- The percentage in effect of an offer in hundredths lies strictly between none and all. -/
theorem exists_of_activePercent {offer : Offer} {points : Option BasisPoints} {now : Instant}
    {percent : Decimal} (hpoints : offer.percent = points.map Decimal.ofHundredths)
    (h : offer.activePercent now = some percent) :
    ∃ n, percent = Decimal.ofHundredths n ∧ 0 < n ∧ n < 10000 := by
  unfold activePercent at h
  rw [hpoints] at h
  obtain ⟨hsome, hactive⟩ := Option.filter_eq_some_iff.mp h
  obtain ⟨n, -, rfl⟩ := Option.map_eq_some_iff.mp hsome
  rw [Bool.and_eq_true, Bool.and_eq_true] at hactive
  obtain ⟨⟨hpositive, hpartial⟩, -⟩ := hactive
  refine ⟨n, rfl, ?_, ?_⟩
  · simpa using Decimal.ofInt_lt_ofHundredths.mp (of_decide_eq_true hpositive)
  · exact Decimal.ofHundredths_lt_ofInt.mp (of_decide_eq_true hpartial)

/-- An offer takes off a part of the price at most. -/
theorem within_finalPrice {offer : Offer} {points : Option BasisPoints} {cents : Cents}
    (hpoints : offer.percent = points.map Decimal.ofHundredths) (natural : 0 ≤ cents)
    (now : Instant) : (offer.finalPrice (.ofHundredths cents) now).Within cents := by
  unfold finalPrice
  cases hactive : offer.activePercent now with
  | none => exact .of_ofHundredths natural
  | some percent =>
    dsimp only
    obtain ⟨n, rfl, hpositive, hpartial⟩ := exists_of_activePercent hpoints hactive
    have hproduct : Decimal.ofHundredths cents * (Decimal.ofInt 100 - Decimal.ofHundredths n) =
        ⟨cents * (10000 - n), 4⟩ := by
      change Decimal.mul _ (Decimal.sub _ _) = _
      simp [Decimal.mul, Decimal.sub, Decimal.mantissaAt, Decimal.ofInt, Decimal.ofHundredths,
        tenTo]
    rw [hproduct]
    refine (Decimal.within_hundredth (by simp) ?_ ?_).round .toEven
    · exact Int.mul_nonneg natural (by omega)
    · exact Int.mul_le_mul_of_nonneg_left (by simp [tenTo]; omega) natural

end Offer

/-- What a unit costs in the end lies between nothing and its price. -/
structure PricedLine.Discounted (line : PricedLine) : Prop where
  finalPrice_natural : 0 ≤ line.finalPrice
  finalPrice_le : line.finalPrice ≤ line.price

theorem discounted_of_priceLine {product : Product} {prices : List Price} {quantity : Int}
    {now : Instant} {line : PricedLine} (natural : ∀ price ∈ prices, 0 ≤ price.amount)
    (h : priceLine product prices quantity now = .ok line) : line.Discounted := by
  unfold priceLine at h
  split_ifs at h
  unfold quote at h
  cases htier : tierFor (prices.map Price.tier) defaultPriceType with
  | none =>
    rw [htier] at h
    cases h
  | some tier =>
    rw [htier] at h
    obtain rfl := Except.ok.inj h
    obtain ⟨price, hprice, rfl⟩ := List.mem_map.mp (mem_of_tierFor htier)
    have hunit : price.tier.price = Decimal.ofHundredths price.amount := rfl
    obtain ⟨hnatural, hbounded⟩ :=
      (product.offer.within_finalPrice rfl (natural price hprice) now).toHundredths
    rw [← hunit] at hnatural hbounded
    refine ⟨hnatural, ?_⟩
    simpa [hunit] using hbounded

end Storefront
