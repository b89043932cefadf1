import Storefront.Proofs.Catalog.Rounding
import Storefront.Proofs.Store.Constraints

/-!
What an offer makes of a price. The final price is the exact one rounded to hundredths, a tie going
to the even one, and its bounds and its order come from those of the exact price.
-/

namespace Storefront

namespace Decimal

/-- A number with at most two decimals, however many it is written with. -/
def InHundredths (d : Decimal) : Prop :=
  ∃ n : Int, d.value = n * (1 / 100)

/-- A number that the column of a price holds. -/
structure IsPrice (d : Decimal) : Prop where
  hundredths : d.InHundredths
  natural : 0 ≤ d.value
  small : d.value < 10 ^ 10

/-- Nothing is lost when the number is stored. -/
structure StoredExactly (d : Decimal) : Prop where
  fits : fitsNumeric 12 d.toHundredths
  value_eq : (ofHundredths d.toHundredths).value = d.value

variable {d : Decimal}

theorem inHundredths_ofHundredths (n : Int) : (ofHundredths n).InHundredths :=
  ⟨n, value_ofHundredths n⟩

theorem inHundredths_ofInt (n : Int) : (ofInt n).InHundredths := by
  refine ⟨100 * n, ?_⟩
  rw [value_ofInt]
  push_cast
  ring

/-- Tiers hold their prices in hundredths, which twelve digits can write. -/
theorem isPrice_ofHundredths {n : Int} (natural : 0 ≤ n) (small : n < 10 ^ 12) :
    (ofHundredths n).IsPrice := by
  have hnatural : (0 : ℚ) ≤ n := by exact_mod_cast natural
  have hsmall : (n : ℚ) < 10 ^ 12 := by exact_mod_cast small
  refine ⟨inHundredths_ofHundredths n, ?_, ?_⟩ <;> rw [value_ofHundredths] <;> linarith

theorem IsPrice.storedExactly (price : d.IsPrice) : d.StoredExactly := by
  obtain ⟨n, hn⟩ := price.hundredths
  have hstored : d.toHundredths = n := by
    rw [toHundredths, round_of_multiple .awayFromZero (k := n) (by rw [hn]; ring)]
  refine ⟨?_, by rw [hstored, value_ofHundredths, hn]⟩
  have hnatural : 0 ≤ n := by
    have := price.natural
    rw [hn] at this
    exact_mod_cast nonneg_of_mul_nonneg_left this (by norm_num)
  have hsmall : n < 10 ^ 12 := by
    have := price.small
    rw [hn] at this
    have hcast : (n : ℚ) < 10 ^ 12 := by linarith
    exact_mod_cast hcast
  have hlimit : tenTo 12 = 10 ^ 12 := rfl
  rw [hstored, fitsNumeric, decide_eq_true_eq, hlimit]
  omega

end Decimal

namespace Offer

/-- The offer takes the percentage off at the instant. A bound that is missing leaves its side of
the window open, and a bound belongs to the window. -/
structure InEffect (offer : Offer) (now : Instant) (percent : Decimal) : Prop where
  percent_eq : offer.percent = some percent
  positive : 0 < percent.value
  below_all : percent.value < 100
  opened : ∀ start, offer.opens = some start → start ≤ now
  not_closed : ∀ finish, offer.closes = some finish → now ≤ finish

variable {offer : Offer} {now : Instant} {percent u v : Decimal}

theorem isOpen_iff : offer.isOpen now ↔
    (∀ start, offer.opens = some start → start ≤ now) ∧
      ∀ finish, offer.closes = some finish → now ≤ finish := by
  simp [isOpen, Option.all_eq_true]

theorem activePercent_eq_some_iff :
    offer.activePercent now = some percent ↔ offer.InEffect now percent := by
  simp only [activePercent, Option.filter_eq_some_iff, Bool.and_eq_true, decide_eq_true_eq,
    isOpen_iff, Decimal.lt_iff_value_lt, Decimal.value_ofInt]
  constructor
  · rintro ⟨hpercent, ⟨hpositive, hbelow⟩, hopened, hclosed⟩
    exact ⟨hpercent, by exact_mod_cast hpositive, by exact_mod_cast hbelow, hopened, hclosed⟩
  · rintro ⟨hpercent, hpositive, hbelow, hopened, hclosed⟩
    exact ⟨hpercent, ⟨by exact_mod_cast hpositive, by exact_mod_cast hbelow⟩, hopened, hclosed⟩

theorem activePercent_eq_none_iff :
    offer.activePercent now = none ↔ ∀ percent, ¬ offer.InEffect now percent := by
  simp only [Option.eq_none_iff_forall_ne_some, ne_eq, activePercent_eq_some_iff]

/-- The price before it is rounded. -/
def exactPrice (offer : Offer) (unitPrice : Decimal) (now : Instant) : ℚ :=
  match offer.activePercent now with
  | some percent => unitPrice.value * (100 - percent.value) / 100
  | none => unitPrice.value

theorem exactPrice_of_inEffect (effect : offer.InEffect now percent) :
    offer.exactPrice u now = u.value * (100 - percent.value) / 100 := by
  rw [exactPrice, activePercent_eq_some_iff.mpr effect]

theorem exactPrice_nonneg (natural : 0 ≤ u.value) : 0 ≤ offer.exactPrice u now := by
  unfold exactPrice
  split
  next percent hactive =>
    have hbelow := (activePercent_eq_some_iff.mp hactive).below_all
    exact div_nonneg (mul_nonneg natural (by linarith)) (by norm_num)
  next => exact natural

theorem exactPrice_le (natural : 0 ≤ u.value) : offer.exactPrice u now ≤ u.value := by
  unfold exactPrice
  split
  next percent hactive =>
    have hpositive := (activePercent_eq_some_iff.mp hactive).positive
    have hpart := mul_le_mul_of_nonneg_left (by linarith : 100 - percent.value ≤ 100) natural
    linarith
  next => exact le_rfl

theorem exactPrice_mono (h : u.value ≤ v.value) :
    offer.exactPrice u now ≤ offer.exactPrice v now := by
  unfold exactPrice
  split
  next percent hactive =>
    have hbelow := (activePercent_eq_some_iff.mp hactive).below_all
    have hpart := mul_le_mul_of_nonneg_right h (by linarith : 0 ≤ 100 - percent.value)
    linarith
  next => exact h

/-- A greater percentage over the same window leaves less to pay. -/
theorem exactPrice_anti {p q : Decimal} (hpercent : offer.percent = some p) (positive : 0 < p.value)
    (hle : p.value ≤ q.value) (below : q.value < 100) (natural : 0 ≤ u.value) :
    Offer.exactPrice { offer with percent := some q } u now ≤ offer.exactPrice u now := by
  by_cases hopen : offer.isOpen now
  · obtain ⟨hopened, hclosed⟩ := isOpen_iff.mp hopen
    have heffect : offer.InEffect now p :=
      ⟨hpercent, positive, hle.trans_lt below, hopened, hclosed⟩
    have hother : Offer.InEffect { offer with percent := some q } now q :=
      ⟨rfl, positive.trans_le hle, below, hopened, hclosed⟩
    rw [exactPrice_of_inEffect heffect, exactPrice_of_inEffect hother]
    have hpart := mul_le_mul_of_nonneg_left (by linarith : 100 - q.value ≤ 100 - p.value) natural
    linarith
  · have hnone : ∀ other : Offer, other.opens = offer.opens → other.closes = offer.closes →
        other.activePercent now = none := by
      intro other hopens hcloses
      have hshut : other.isOpen now = false := by
        simpa [isOpen, hopens, hcloses] using hopen
      simp [activePercent, hshut]
    simp only [exactPrice, hnone offer rfl rfl, hnone { offer with percent := some q } rfl rfl]
    exact le_rfl

theorem finalPrice_of_not_inEffect (h : ∀ percent, ¬ offer.InEffect now percent) :
    offer.finalPrice u now = u := by
  rw [finalPrice, activePercent_eq_none_iff.mpr h]

/-- The quotient of a discount keeps all its digits, so that nothing is rounded twice. -/
theorem value_hundredth_discounted (effect : offer.InEffect now percent)
    (percentage : percent.InHundredths) (price : u.IsPrice) :
    (u * (Decimal.ofInt 100 - percent)).hundredth.value =
      u.value * (100 - percent.value) / 100 := by
  obtain ⟨n, hn⟩ := price.hundredths
  obtain ⟨p, hp⟩ := percentage
  have hvalue : (u * (Decimal.ofInt 100 - percent)).value = u.value * (100 - percent.value) := by
    rw [Decimal.value_mul, Decimal.value_sub, Decimal.value_ofInt]
    norm_num
  have hdecimals : (u * (Decimal.ofInt 100 - percent)).value * 10 ^ 4 =
      ((n * (10000 - p) : Int) : ℚ) := by
    rw [hvalue, hn, hp]
    push_cast
    ring
  rw [Decimal.value_hundredth hdecimals, hvalue]
  have hnatural : 0 ≤ u.value * (100 - percent.value) :=
    mul_nonneg price.natural (by linarith [effect.below_all])
  have hsmall : u.value * (100 - percent.value) ≤ 10 ^ 10 * 100 :=
    mul_le_mul price.small.le (by linarith [effect.positive]) (by linarith [effect.below_all])
      (by norm_num)
  rw [hvalue] at hdecimals
  have hlow : 0 ≤ n * (10000 - p) := by
    have hcast : (0 : ℚ) ≤ ((n * (10000 - p) : Int) : ℚ) := by linarith
    exact_mod_cast hcast
  have hhigh : n * (10000 - p) ≤ 10 ^ 16 := by
    have hcast : ((n * (10000 - p) : Int) : ℚ) ≤ 10 ^ 16 := by linarith
    exact_mod_cast hcast
  have hroom : 10 ^ 16 < tenTo 98 := by decide
  omega

theorem finalPrice_of_inEffect (effect : offer.InEffect now percent)
    (percentage : percent.InHundredths) (price : u.IsPrice) :
    ∃ n, offer.finalPrice u now = .ofHundredths n ∧
      NearestEven (1 / 100) (u.value * (100 - percent.value) / 100) n := by
  obtain ⟨n, hround, hnearest⟩ :=
    Decimal.nearestEven_round (u * (Decimal.ofInt 100 - percent)).hundredth 2
  rw [value_hundredth_discounted effect percentage price] at hnearest
  refine ⟨n, ?_, by convert hnearest using 1; norm_num⟩
  rw [finalPrice, activePercent_eq_some_iff.mpr effect]
  exact hround

/-- With an offer or without one, the final price is the exact one, rounded. -/
theorem nearestEven_exactPrice (percentage : ∀ p, offer.percent = some p → p.InHundredths)
    (now : Instant) (price : u.IsPrice) :
    ∃ n : Int, (offer.finalPrice u now).value = n * (1 / 100) ∧
      NearestEven (1 / 100) (offer.exactPrice u now) n := by
  by_cases heffect : ∃ percent, offer.InEffect now percent
  · obtain ⟨percent, heffect⟩ := heffect
    obtain ⟨n, hfinal, hnearest⟩ :=
      finalPrice_of_inEffect heffect (percentage _ heffect.percent_eq) price
    exact ⟨n, by rw [hfinal, Decimal.value_ofHundredths], by rwa [exactPrice_of_inEffect heffect]⟩
  · obtain ⟨n, hn⟩ := price.hundredths
    have hnone := activePercent_eq_none_iff.mpr (not_exists.mp heffect)
    refine ⟨n, by rw [finalPrice, hnone, hn], ?_⟩
    rw [exactPrice, hnone, hn]
    exact .of_multiple (by norm_num) n

/-- Final prices are in the order of the exact ones. -/
theorem value_finalPrice_mono {other : Offer} {later : Instant}
    (percentage : ∀ p, offer.percent = some p → p.InHundredths)
    (otherPercentage : ∀ p, other.percent = some p → p.InHundredths)
    (hu : u.IsPrice) (hv : v.IsPrice)
    (h : offer.exactPrice u now ≤ other.exactPrice v later) :
    (offer.finalPrice u now).value ≤ (other.finalPrice v later).value := by
  obtain ⟨n, hn, hnearest⟩ := nearestEven_exactPrice percentage now hu
  obtain ⟨m, hm, hother⟩ := nearestEven_exactPrice otherPercentage later hv
  have hle := hnearest.mono (by norm_num) hother h
  rw [hn, hm]
  exact mul_le_mul_of_nonneg_right (by exact_mod_cast hle) (by norm_num)

theorem isPrice_finalPrice (percentage : ∀ p, offer.percent = some p → p.InHundredths)
    (now : Instant) (price : u.IsPrice) :
    (offer.finalPrice u now).IsPrice ∧ (offer.finalPrice u now).value ≤ u.value := by
  obtain ⟨n, hn, hnearest⟩ := nearestEven_exactPrice percentage now price
  obtain ⟨m, hm⟩ := price.hundredths
  have hunit : (0 : ℚ) < 1 / 100 := by norm_num
  -- Nothing and the price itself are multiples of the unit, which rounding does not pass.
  have hnatural : 0 ≤ n :=
    NearestEven.mono hunit (.of_multiple hunit 0) hnearest
      (by simpa using exactPrice_nonneg price.natural)
  have hmost : n ≤ m :=
    hnearest.mono hunit (.of_multiple hunit m) (hm ▸ exactPrice_le price.natural)
  have hle : (offer.finalPrice u now).value ≤ u.value := by
    rw [hn, hm]
    exact mul_le_mul_of_nonneg_right (by exact_mod_cast hmost) hunit.le
  refine ⟨⟨⟨n, hn⟩, ?_, hle.trans_lt price.small⟩, hle⟩
  rw [hn]
  exact mul_nonneg (by exact_mod_cast hnatural) hunit.le

end Offer

/-- The figures of a quote: the final price and the discount are parts of the unit price that make
it up, and the columns of an order line hold all three as they are. -/
structure Quote.Sound (q : Quote) : Prop where
  finalPrice_natural : 0 ≤ q.finalPrice.value
  finalPrice_le : q.finalPrice.value ≤ q.unitPrice.value
  discount_natural : 0 ≤ q.discount.value
  unitPrice_sub_discount : (q.unitPrice - q.discount).value = q.finalPrice.value
  unitPrice_stored : q.unitPrice.StoredExactly
  finalPrice_stored : q.finalPrice.StoredExactly
  discount_stored : q.discount.StoredExactly

theorem sound_of_quote {offer : Offer} {now : Instant} {q : Quote}
    (percentage : ∀ p, offer.percent = some p → p.InHundredths) (price : q.unitPrice.IsPrice)
    (hfinal : q.finalPrice = offer.finalPrice q.unitPrice now)
    (hdiscount : q.discount = q.unitPrice - q.finalPrice) : q.Sound := by
  obtain ⟨hprice, hle⟩ := Offer.isPrice_finalPrice percentage now price
  rw [← hfinal] at hprice hle
  have hvalue : q.discount.value = q.unitPrice.value - q.finalPrice.value := by
    rw [hdiscount, Decimal.value_sub]
  have hnatural : 0 ≤ q.discount.value := by linarith
  refine ⟨hprice.natural, hle, hnatural, ?_, price.storedExactly, hprice.storedExactly,
    Decimal.IsPrice.storedExactly ⟨?_, hnatural, ?_⟩⟩
  · rw [Decimal.value_sub, hvalue]
    ring
  · obtain ⟨n, hn⟩ := price.hundredths
    obtain ⟨m, hm⟩ := hprice.hundredths
    refine ⟨n - m, ?_⟩
    rw [hvalue, hn, hm]
    push_cast
    ring
  · linarith [hprice.natural, price.small]

/-- Discounted prices are rounded correctly. Take any offer whose percentage has at most two
decimals, any instant, and prices as their column holds them. While the offer is in effect, the
final price is the number of hundredths nearest to what the percentage leaves of the unit price, a
tie going to the even one; at every other time it is the unit price itself. It grows with the unit
price, and falls as the percentage grows over the same window. A quote from at least one tier
succeeds with the price of the tier asked for or of the first, its final price and discount are
parts that make up the unit price exactly, and the columns of a line hold its figures as they
are. -/
theorem Offer.finalPrice_rounded (offer : Offer) (now : Instant)
    (percentage : ∀ p, offer.percent = some p → p.InHundredths) :
    (∀ u : Decimal, u.IsPrice →
      (∀ p, offer.InEffect now p →
        ∃ n, offer.finalPrice u now = .ofHundredths n ∧
          NearestEven (1 / 100) (u.value * (100 - p.value) / 100) n) ∧
      ((∀ p, ¬ offer.InEffect now p) → offer.finalPrice u now = u)) ∧
    (∀ u v : Decimal, u.IsPrice → v.IsPrice → u.value ≤ v.value →
      (offer.finalPrice u now).value ≤ (offer.finalPrice v now).value) ∧
    (∀ u p q : Decimal, u.IsPrice → offer.percent = some p → q.InHundredths →
      0 < p.value → p.value ≤ q.value → q.value < 100 →
      (Offer.finalPrice { offer with percent := some q } u now).value ≤
        (offer.finalPrice u now).value) ∧
    ∀ (product : ProductId) (tiers : List Tier) (priceType : String),
      tiers ≠ [] → (∀ tier ∈ tiers, tier.price.IsPrice) →
      ∃ q tier, quote product offer tiers priceType now = .ok q ∧
        tierFor tiers priceType = some tier ∧ tier ∈ tiers ∧
        q.priceType = tier.priceType ∧ q.unitPrice = tier.price ∧
        q.finalPrice = offer.finalPrice q.unitPrice now ∧ q.Sound := by
  refine ⟨fun u price => ⟨fun p effect => ?_, finalPrice_of_not_inEffect⟩, ?_, ?_, ?_⟩
  · exact finalPrice_of_inEffect effect (percentage p effect.percent_eq) price
  · intro u v hu hv hle
    exact value_finalPrice_mono percentage percentage hu hv (exactPrice_mono hle)
  · intro u p q hu hpercent hq hpositive hle hbelow
    refine value_finalPrice_mono ?_ percentage hu hu
      (exactPrice_anti hpercent hpositive hle hbelow hu.natural)
    intro other hother
    exact Option.some.inj hother ▸ hq
  · intro product tiers priceType hsome hprices
    obtain ⟨tier, htier⟩ : ∃ tier, tierFor tiers priceType = some tier := by
      obtain ⟨first, rest, rfl⟩ := List.exists_cons_of_ne_nil hsome
      cases hfound : (first :: rest).find? fun tier => tier.priceType = priceType <;>
        simp [tierFor, hfound]
    have hmem := mem_of_tierFor htier
    refine ⟨_, tier, by rw [quote, htier], htier, hmem, rfl, rfl, rfl, ?_⟩
    exact sound_of_quote percentage (hprices tier hmem) rfl rfl

/-- A tenth off at all times. -/
def Offer.tenPercent : Offer := ⟨some (.ofInt 10), none, none⟩

/-- A tenth off five cents and off fifteen leaves half a cent each time: the first goes down to four
cents and the second up to fourteen. A third off leaves less still. -/
theorem Offer.finalPrice_rounded_at_ties :
    tenPercent.InEffect ⟨0, 0⟩ (.ofInt 10) ∧
    (Decimal.ofHundredths 5).IsPrice ∧ (Decimal.ofHundredths 15).IsPrice ∧
    tenPercent.finalPrice (.ofHundredths 5) ⟨0, 0⟩ = .ofHundredths 4 ∧
    NearestEven (1 / 100)
      ((Decimal.ofHundredths 5).value * (100 - (Decimal.ofInt 10).value) / 100) 4 ∧
    tenPercent.finalPrice (.ofHundredths 15) ⟨0, 0⟩ = .ofHundredths 14 ∧
    NearestEven (1 / 100) ((Decimal.ofHundredths 15).value * (100 - (Decimal.ofInt 10).value) / 100)
      14 ∧
    (tenPercent.finalPrice (.ofHundredths 5) ⟨0, 0⟩).value ≤
      (tenPercent.finalPrice (.ofHundredths 15) ⟨0, 0⟩).value ∧
    (Offer.finalPrice { tenPercent with percent := some (.ofInt 33) }
      (.ofHundredths 15) ⟨0, 0⟩).value ≤
      (tenPercent.finalPrice (.ofHundredths 15) ⟨0, 0⟩).value ∧
    ∃ q, quote 1 tenPercent [⟨1, "F", .ofHundredths 15⟩] "H" ⟨0, 0⟩ = .ok q ∧ q.Sound := by
  have heffect : tenPercent.InEffect ⟨0, 0⟩ (.ofInt 10) := by
    refine ⟨rfl, ?_, ?_, (fun _ h => nomatch h), (fun _ h => nomatch h)⟩ <;>
      rw [Decimal.value_ofInt] <;> norm_num
  have hfive := Decimal.isPrice_ofHundredths (n := 5) (by decide) (by decide)
  have hfifteen := Decimal.isPrice_ofHundredths (n := 15) (by decide) (by decide)
  obtain ⟨hrounded, hmono, hanti, hquote⟩ := Offer.finalPrice_rounded tenPercent ⟨0, 0⟩
    (fun p h => Option.some.inj h ▸ Decimal.inHundredths_ofInt 10)
  have hfirst : tenPercent.finalPrice (.ofHundredths 5) ⟨0, 0⟩ = .ofHundredths 4 := by
    decide +kernel
  have hsecond : tenPercent.finalPrice (.ofHundredths 15) ⟨0, 0⟩ = .ofHundredths 14 := by
    decide +kernel
  obtain ⟨n, hn, hdown⟩ := (hrounded _ hfive).1 _ heffect
  obtain ⟨m, hm, hup⟩ := (hrounded _ hfifteen).1 _ heffect
  obtain rfl : 4 = n := congrArg Decimal.mantissa (hfirst.symm.trans hn)
  obtain rfl : 14 = m := congrArg Decimal.mantissa (hsecond.symm.trans hm)
  obtain ⟨q, -, hq, -, -, -, -, -, hsound⟩ := hquote 1 [⟨1, "F", .ofHundredths 15⟩] "H"
    (List.cons_ne_nil _ _) (by rintro _ (_ | ⟨_, ⟨⟩⟩); exact hfifteen)
  refine ⟨heffect, hfive, hfifteen, hn, hdown, hm, hup, hmono _ _ hfive hfifteen ?_,
    hanti _ (.ofInt 10) _ hfifteen rfl (Decimal.inHundredths_ofInt 33) ?_ ?_ ?_, q, hq, hsound⟩
  all_goals simp only [Decimal.value_ofInt, Decimal.value_ofHundredths]; norm_num

end Storefront
