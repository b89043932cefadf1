import Mathlib.Algebra.Order.Field.Rat
import Mathlib.Tactic.FieldSimp
import Mathlib.Tactic.Linarith
import Mathlib.Tactic.NormNum
import Mathlib.Tactic.Positivity
import Mathlib.Tactic.Ring
import Storefront.Proofs.Catalog.Discounts

/-!
Rounding as a contract on rational numbers: the nearest multiple of a unit, and the even one of two
that are equally near. What is rounded grows with the number, so that there is one such multiple at
most. Decimal arithmetic is exact on values, and its rounding keeps the contract.
-/

namespace Storefront

/-- `n` times the unit is nearest to `x` among the multiples of the unit. Where another multiple is
as near, `n` is even. -/
structure NearestEven (unit x : ℚ) (n : Int) : Prop where
  nearest (m : Int) : |x - n * unit| ≤ |x - m * unit|
  even_of_tie (m : Int) : m ≠ n → |x - m * unit| = |x - n * unit| → Even n

namespace NearestEven

variable {unit x y : ℚ} {n m : Int}

theorem of_le_half (positive : 0 < unit) (near : |x - n * unit| ≤ unit / 2)
    (tie : |x - n * unit| = unit / 2 → Even n) : NearestEven unit x n := by
  -- Another multiple is a whole unit away from this one, so at least half a unit from `x`.
  have hfar : ∀ m : Int, m ≠ n → unit ≤ |x - n * unit| + |x - m * unit| := by
    intro m hm
    have hone : (1 : ℚ) ≤ |(m : ℚ) - n| := by
      exact_mod_cast Int.one_le_abs (sub_ne_zero.mpr hm)
    calc unit ≤ |(m : ℚ) - n| * unit := le_mul_of_one_le_left positive.le hone
      _ = |(x - n * unit) - (x - m * unit)| := by
        rw [← abs_of_pos positive, ← abs_mul, abs_of_pos positive]
        ring_nf
      _ ≤ |x - n * unit| + |x - m * unit| := abs_sub _ _
  refine ⟨fun m => ?_, fun m hm heq => tie ?_⟩
  · by_cases hm : m = n
    · rw [hm]
    · linarith [hfar m hm]
  · linarith [hfar m hm]

theorem le_half (positive : 0 < unit) (h : NearestEven unit x n) : |x - n * unit| ≤ unit / 2 := by
  have habove := h.nearest (n + 1)
  have hbelow := h.nearest (n - 1)
  push_cast at habove hbelow
  rw [add_mul, one_mul, ← sub_sub] at habove
  rw [sub_mul, one_mul, sub_sub_eq_add_sub, add_sub_right_comm] at hbelow
  generalize x - n * unit = rest at habove hbelow ⊢
  rcases abs_cases rest with ⟨hrest, _⟩ | ⟨hrest, _⟩
  · rcases abs_cases (rest - unit) with ⟨hother, _⟩ | ⟨hother, _⟩ <;> linarith
  · rcases abs_cases (rest + unit) with ⟨hother, _⟩ | ⟨hother, _⟩ <;> linarith

theorem even_of_mirrored (h : NearestEven unit x n) (other : m ≠ n)
    (mirrored : x - m * unit = -(x - n * unit)) : Even n :=
  h.even_of_tie m other (by rw [mirrored, abs_neg])

theorem even_of_eq_half (h : NearestEven unit x n) (half : |x - n * unit| = unit / 2) :
    Even n := by
  -- The neighbour on the side of `x` is as far from it.
  rcases abs_cases (x - n * unit) with ⟨hrest, _⟩ | ⟨hrest, _⟩
  · have hnext : n + 1 ≠ n := by omega
    exact h.even_of_mirrored hnext (by push_cast; linarith)
  · have hprevious : n - 1 ≠ n := by omega
    exact h.even_of_mirrored hprevious (by push_cast; linarith)

/-- What is rounded grows, and so does the multiple it is rounded to. -/
theorem mono (positive : 0 < unit) (hx : NearestEven unit x n) (hy : NearestEven unit y m)
    (h : x ≤ y) : n ≤ m := by
  by_contra hlt
  have hstep : (m : ℚ) + 1 ≤ n := by exact_mod_cast Int.not_le.mp hlt
  have hunits : (m : ℚ) * unit + unit ≤ n * unit := by
    have := mul_le_mul_of_nonneg_right hstep positive.le
    linarith
  obtain ⟨hxlow, -⟩ := abs_le.mp (hx.le_half positive)
  obtain ⟨-, hyhigh⟩ := abs_le.mp (hy.le_half positive)
  -- Both are the same number, halfway between two neighbours that would both be even.
  have hneighbour : n = m + 1 := by
    have hle : (n : ℚ) * unit ≤ (m + 1) * unit := by linarith
    exact_mod_cast le_antisymm (le_of_mul_le_mul_right hle positive) hstep
  have hxhalf : |x - n * unit| = unit / 2 := by
    rw [abs_of_nonpos (by linarith)]
    linarith
  have hyhalf : |y - m * unit| = unit / 2 := by
    rw [abs_of_nonneg (by linarith)]
    linarith
  have heven := hx.even_of_eq_half hxhalf
  rw [hneighbour, Int.even_add_one] at heven
  exact heven (hy.even_of_eq_half hyhalf)

/-- A multiple of the unit is rounded to itself. -/
theorem of_multiple (positive : 0 < unit) (n : Int) : NearestEven unit (n * unit) n := by
  refine of_le_half positive ?_ fun half => ?_ <;> rw [sub_self, abs_zero] at *
  · positivity
  · linarith

theorem neg (h : NearestEven unit x n) : NearestEven unit (-x) (-n) := by
  have hdistance : ∀ k : Int, |-x - (-k : Int) * unit| = |x - k * unit| := by
    intro k
    rw [← abs_neg]
    push_cast
    ring_nf
  refine ⟨fun m => ?_, fun m hm heq => (h.even_of_tie (-m) (by omega) ?_).neg⟩
  · rw [hdistance, ← neg_neg m, hdistance]
    exact h.nearest (-m)
  · rwa [hdistance, ← neg_neg m, hdistance] at heq

theorem scale {c : ℚ} (positive : 0 < c) (h : NearestEven unit x n) :
    NearestEven (unit * c) (x * c) n := by
  have hdistance : ∀ k : Int, |x * c - k * (unit * c)| = |x - k * unit| * c := by
    intro k
    rw [← abs_of_pos positive, ← abs_mul, abs_of_pos positive]
    ring_nf
  refine ⟨fun m => ?_, fun m hm heq => h.even_of_tie m hm ?_⟩
  · rw [hdistance, hdistance]
    exact mul_le_mul_of_nonneg_right (h.nearest m) positive.le
  · rw [hdistance, hdistance] at heq
    exact mul_right_cancel₀ positive.ne' heq

end NearestEven

/-- It is counted up beyond half the divisor, and at half of it beside an odd quotient. -/
theorem roundsUp_toEven_iff {q r d : Nat} :
    Tie.toEven.roundsUp q r d ↔ d < 2 * r ∨ 2 * r = d ∧ q % 2 = 1 := by
  simp [Tie.roundsUp]

section Half

variable {r d : Nat}

theorem half_le_div_iff (positive : 0 < d) : (1 : ℚ) / 2 ≤ r / d ↔ d ≤ 2 * r := by
  have hd : (0 : ℚ) < d := by exact_mod_cast positive
  rw [div_le_div_iff₀ two_pos hd, one_mul, mul_comm]
  exact_mod_cast Iff.rfl

theorem div_le_half_iff (positive : 0 < d) : (r : ℚ) / d ≤ 1 / 2 ↔ 2 * r ≤ d := by
  have hd : (0 : ℚ) < d := by exact_mod_cast positive
  rw [div_le_div_iff₀ hd two_pos, one_mul, mul_comm]
  exact_mod_cast Iff.rfl

theorem div_eq_half_iff (positive : 0 < d) : (r : ℚ) / d = 1 / 2 ↔ 2 * r = d := by
  rw [le_antisymm_iff, div_le_half_iff positive, half_le_div_iff positive]
  omega

end Half

/-- A quotient of natural numbers goes to its nearest integer, a tie to the even one. -/
theorem nearestEven_natQuotient (n : Nat) {d : Nat} (positive : 0 < d) :
    NearestEven 1 ((n : ℚ) / d)
      ((if Tie.toEven.roundsUp (n / d) (n % d) d then n / d + 1 else n / d : Nat) : Int) := by
  have hd : (0 : ℚ) < d := by exact_mod_cast positive
  have hsplit : (n : ℚ) / d = (n / d : Nat) + (n % d : Nat) / d := by
    rw [div_eq_iff hd.ne', add_mul, div_mul_cancel₀ _ hd.ne', mul_comm]
    exact_mod_cast (Nat.div_add_mod n d).symm
  have hrest : n % d < d := Nat.mod_lt n positive
  rw [hsplit]
  generalize n / d = q, n % d = r at hrest ⊢
  have hfraction : (r : ℚ) / d < 1 := (div_lt_one hd).mpr (by exact_mod_cast hrest)
  have hnatural : (0 : ℚ) ≤ r / d := by positivity
  split
  next hup =>
    rw [roundsUp_toEven_iff] at hup
    have hdistance : |(q : ℚ) + r / d - ((q + 1 : Nat) : Int) * 1| = 1 - r / d := by
      rw [abs_of_nonpos (by push_cast; linarith)]
      push_cast
      ring
    have hleast : (1 : ℚ) / 2 ≤ r / d := (half_le_div_iff positive).mpr (by omega)
    refine .of_le_half one_pos (by linarith) fun htie => ?_
    have htwice : 2 * r = d := (div_eq_half_iff positive).mp (by linarith)
    rw [Int.even_iff]
    omega
  next hdown =>
    rw [roundsUp_toEven_iff] at hdown
    have hdistance : |(q : ℚ) + r / d - (q : Int) * 1| = r / d := by
      rw [abs_of_nonneg (by push_cast; linarith)]
      push_cast
      ring
    have hmost : (r : ℚ) / d ≤ 1 / 2 := (div_le_half_iff positive).mpr (by omega)
    refine .of_le_half one_pos (by linarith) fun htie => ?_
    have htwice : 2 * r = d := (div_eq_half_iff positive).mp (by linarith)
    rw [Int.even_iff]
    omega

theorem nearestEven_roundQuotient (n : Int) {d : Nat} (positive : 0 < d) :
    NearestEven 1 ((n : ℚ) / d) (roundQuotient .toEven n d) := by
  have hnatural := nearestEven_natQuotient n.natAbs positive
  unfold roundQuotient
  rcases Int.lt_or_le n 0 with hneg | hnonneg
  · have habs : ((n : ℚ) / d) = -((n.natAbs : ℚ) / d) := by
      rw [← neg_div, Nat.cast_natAbs, abs_of_neg hneg]
      push_cast
      ring
    simp only [hneg, if_true, habs]
    exact hnatural.neg
  · have habs : ((n : ℚ) / d) = (n.natAbs : ℚ) / d := by
      rw [Nat.cast_natAbs, abs_of_nonneg hnonneg]
    simp only [Int.not_lt.mpr hnonneg, if_false, habs]
    exact hnatural

/-- Nothing is rounded where the division comes out even. -/
theorem roundQuotient_mul (tie : Tie) (n : Int) {d : Nat} (positive : 0 < d) :
    roundQuotient tie (n * d) d = n := by
  have hdown : tie.roundsUp n.natAbs 0 d = false := by
    simp [Tie.roundsUp, Nat.ne_of_lt positive]
  have hd : (0 : Int) < d := by exact_mod_cast positive
  simp only [roundQuotient, Int.natAbs_mul, Int.natAbs_natCast, Nat.mul_div_cancel _ positive,
    Nat.mul_mod_left, hdown, Bool.false_eq_true, if_false]
  rcases Int.lt_or_le n 0 with hneg | hnonneg
  · rw [if_pos (Int.mul_neg_of_neg_of_pos hneg hd)]
    omega
  · rw [if_neg (Int.not_lt.mpr (Int.mul_nonneg hnonneg hd.le))]
    omega

namespace Decimal

/-- The rational number that a decimal number stands for. -/
def value (d : Decimal) : ℚ := d.mantissa / 10 ^ d.places

theorem cast_tenTo (n : Nat) : ((tenTo n : Nat) : ℚ) = 10 ^ n := by
  simp [tenTo]

theorem value_ofInt (n : Int) : (ofInt n).value = n := by
  simp [value, ofInt]

theorem value_ofHundredths (n : Int) : (ofHundredths n).value = n * (1 / 100) := by
  simp only [value, ofHundredths]
  norm_num
  ring

/-- The mantissa at more places is that of the same value. -/
theorem cast_mantissaAt {d : Decimal} {n : Nat} (h : d.places ≤ n) :
    (d.mantissaAt n : ℚ) = d.value * 10 ^ n := by
  have hsplit : (10 : ℚ) ^ n = 10 ^ (n - d.places) * 10 ^ d.places := by
    rw [← pow_add, Nat.sub_add_cancel h]
  simp only [mantissaAt, value]
  push_cast [cast_tenTo]
  rw [hsplit]
  field_simp

theorem value_sub (a b : Decimal) : (a - b).value = a.value - b.value := by
  change (sub a b).value = _
  simp only [sub, value]
  push_cast
  rw [cast_mantissaAt (Nat.le_max_left ..), cast_mantissaAt (Nat.le_max_right ..)]
  simp only [value]
  field_simp

theorem value_mul (a b : Decimal) : (a * b).value = a.value * b.value := by
  change (mul a b).value = _
  simp only [mul, value, pow_add]
  push_cast
  field_simp

theorem lt_iff_value_lt {a b : Decimal} : a < b ↔ a.value < b.value := by
  change lt a b ↔ _
  simp only [lt]
  rw [← Int.cast_lt (R := ℚ), cast_mantissaAt (Nat.le_max_left ..),
    cast_mantissaAt (Nat.le_max_right ..)]
  exact mul_lt_mul_iff_left₀ (by positivity)

/-- A number that needs no more than `n` places is rounded to itself. -/
theorem round_of_multiple (tie : Tie) {d : Decimal} {n : Nat} {k : Int}
    (h : d.value * 10 ^ n = k) : d.round tie n = ⟨k, n⟩ := by
  unfold round
  split
  next hfew =>
    have hmantissa : d.mantissaAt n = k := by
      exact_mod_cast (cast_mantissaAt hfew).trans h
    rw [hmantissa]
  next hmany =>
    have hsplit : (10 : ℚ) ^ d.places = 10 ^ (d.places - n) * 10 ^ n := by
      rw [← pow_add, Nat.sub_add_cancel (by omega)]
    have hmantissa : d.mantissa = k * (tenTo (d.places - n) : Nat) := by
      rw [← Int.cast_inj (α := ℚ)]
      push_cast [cast_tenTo]
      rw [← h, value, hsplit]
      field_simp
    rw [hmantissa, roundQuotient_mul tie k (tenTo_pos _)]

theorem nearestEven_round (d : Decimal) (n : Nat) :
    ∃ k, d.round .toEven n = ⟨k, n⟩ ∧ NearestEven (1 / 10 ^ n) d.value k := by
  have hunit : (0 : ℚ) < 1 / 10 ^ n := by positivity
  by_cases hfew : d.places ≤ n
  · refine ⟨d.mantissaAt n, by rw [round, if_pos hfew], ?_⟩
    have hvalue : d.value = d.mantissaAt n * (1 / 10 ^ n) := by
      rw [cast_mantissaAt hfew]
      field_simp
    rw [hvalue]
    exact .of_multiple hunit _
  · refine ⟨_, by rw [round, if_neg hfew], ?_⟩
    have hnearest := (nearestEven_roundQuotient d.mantissa (tenTo_pos (d.places - n))).scale hunit
    have hsplit : (10 : ℚ) ^ d.places = 10 ^ (d.places - n) * 10 ^ n := by
      rw [← pow_add, Nat.sub_add_cancel (by omega)]
    have hvalue : d.mantissa / (tenTo (d.places - n) : Nat) * (1 / 10 ^ n) = d.value := by
      rw [cast_tenTo, value, hsplit]
      field_simp
    rwa [one_mul, hvalue] at hnearest

/-- A hundredth is exact if the digits that it drops are zeros. -/
theorem value_hundredth_of_dvd {d : Decimal}
    (h : ((tenTo (droppedDigits d.mantissa.natAbs) : Nat) : Int) ∣ d.mantissa) :
    d.hundredth.value = d.value / 100 := by
  have hdropped := droppedDigits_le d.mantissa.natAbs
  simp only [hundredth, value]
  generalize droppedDigits d.mantissa.natAbs = dropped at h hdropped ⊢
  obtain ⟨kept, hkept⟩ := h
  have hsplit : (10 : ℚ) ^ d.places * 100 = 10 ^ dropped * 10 ^ (d.places + 2 - dropped) := by
    rw [← pow_add, Nat.add_sub_cancel' (by omega), pow_add]
    norm_num
  rw [div_div, hsplit, hkept, mul_comm _ kept, roundQuotient_mul _ kept (tenTo_pos _)]
  push_cast [cast_tenTo]
  field_simp

/-- A hundredth of a number with at most four decimals is exact if 98 digits write the number
without its point. -/
theorem value_hundredth {d : Decimal} {k : Int} (decimals : d.value * 10 ^ 4 = k)
    (small : k.natAbs < tenTo 98) : d.hundredth.value = d.value / 100 := by
  refine value_hundredth_of_dvd ?_
  have hmantissa : d.mantissa * (tenTo 4 : Nat) = k * (tenTo d.places : Nat) := by
    rw [← Int.cast_inj (α := ℚ)]
    push_cast [cast_tenTo]
    rw [← decimals, value]
    field_simp
  by_cases hshort : d.mantissa.natAbs < tenTo quotientDigits
  · rw [droppedDigits, if_pos hshort]
    exact one_dvd _
  · -- A mantissa beyond the kept digits is that long because of trailing zeros.
    have hlong : tenTo 4 * tenTo 100 ≤ k.natAbs * tenTo d.places := by
      have habs := congrArg Int.natAbs hmantissa
      rw [Int.natAbs_mul, Int.natAbs_mul, Int.natAbs_natCast, Int.natAbs_natCast] at habs
      rw [← habs, Nat.mul_comm]
      exact Nat.mul_le_mul_right _ (Nat.not_lt.mp hshort)
    have hplaces : 6 ≤ d.places := by
      by_contra hfew
      have hzeros : tenTo d.places ≤ tenTo 6 := Nat.pow_le_pow_right (by decide) (by omega)
      have hbound : k.natAbs * tenTo d.places < tenTo 98 * tenTo 6 :=
        Nat.mul_lt_mul_of_lt_of_le small hzeros (tenTo_pos _)
      rw [← tenTo_add] at hbound hlong
      exact absurd (hlong.trans_lt hbound) (Nat.lt_irrefl _)
    have hzeros : d.mantissa = k * (tenTo (d.places - 4) : Nat) := by
      have hsplit : tenTo d.places = tenTo (d.places - 4) * tenTo 4 := by
        rw [← tenTo_add, Nat.sub_add_cancel (by omega)]
      rw [hsplit, Nat.cast_mul, ← mul_assoc] at hmantissa
      exact Int.eq_of_mul_eq_mul_right (by exact_mod_cast (tenTo_pos 4).ne') hmantissa
    conv_rhs => rw [hzeros]
    refine Dvd.dvd.mul_left (Int.natCast_dvd_natCast.mpr ?_) k
    exact Nat.pow_dvd_pow 10 (le_trans (droppedDigits_le _) (by omega))

end Decimal
end Storefront
