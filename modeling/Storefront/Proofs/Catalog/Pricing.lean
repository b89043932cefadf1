import Mathlib.Algebra.Group.Basic
import Mathlib.Algebra.Group.Int.Defs
import Mathlib.Tactic.Common
import Storefront.Order.Lines
import Storefront.Proofs.Lists

/-!
Exactness of prices. Tiers and final prices are whole hundredths, so that nothing of a line is lost
when it is stored, and what an order comes to is the sum of what its lines come to.
-/

namespace Storefront

namespace Decimal

theorem ofHundredths_sub (a b : Int) : ofHundredths a - ofHundredths b = ofHundredths (a - b) := by
  change sub (ofHundredths a) (ofHundredths b) = ofHundredths (a - b)
  simp [sub, ofHundredths, mantissaAt]

theorem eq_ofHundredths {d : Decimal} (h : d.places = 2) : d = ofHundredths d.toHundredths := by
  obtain ⟨mantissa, places⟩ := d
  obtain rfl : places = 2 := h
  exact congrArg ofHundredths (toHundredths_ofHundredths mantissa).symm

@[simp] theorem places_round (tie : Tie) (n : Nat) (d : Decimal) : (d.round tie n).places = n := by
  unfold round
  split <;> rfl

end Decimal

theorem Offer.places_finalPrice (offer : Offer) {unitPrice : Decimal} (now : Instant)
    (h : unitPrice.places = 2) : (offer.finalPrice unitPrice now).places = 2 := by
  unfold finalPrice
  cases offer.activePercent now with
  | none => exact h
  | some percent => exact Decimal.places_round _ _ _

theorem mem_of_tierFor {tiers : List Tier} {priceType : String} {tier : Tier}
    (h : tierFor tiers priceType = some tier) : tier ∈ tiers := by
  unfold tierFor at h
  rw [Option.orElse_eq_orElse, Option.orElse_eq_or, Option.or_eq_some_iff] at h
  rcases h with hfound | ⟨-, hhead⟩
  · exact List.mem_of_find?_eq_some hfound
  · exact List.mem_of_mem_head? hhead

/-- A line as it is priced: the price less the discount is the final price, exactly. -/
structure PricedLine.Exact (line : PricedLine) : Prop where
  price_sub_discount : line.price - line.discountAmount = line.finalPrice
  subtotal_eq : line.subtotal = line.finalPrice * line.quantity

theorem exact_of_priceLine {product : Product} {prices : List Price} {quantity : Int}
    {now : Instant} {line : PricedLine} (h : priceLine product prices quantity now = .ok line) :
    line.Exact ∧ line.productId = product.id ∧ line.quantity = quantity ∧
      quantity ≤ product.stock := by
  unfold priceLine at h
  split_ifs at h with hactive hstock
  unfold quote at h
  cases htier : tierFor (prices.map Price.tier) defaultPriceType with
  | none =>
    rw [htier] at h
    cases h
  | some tier =>
    rw [htier] at h
    obtain rfl := Except.ok.inj h
    obtain ⟨price, -, rfl⟩ := List.mem_map.mp (mem_of_tierFor htier)
    have hunit : price.tier.price = Decimal.ofHundredths price.amount := rfl
    have hplaces := product.offer.places_finalPrice now (congrArg (·.places) hunit)
    have hfinal := Decimal.eq_ofHundredths hplaces
    refine ⟨⟨?_, rfl⟩, rfl, rfl, Int.not_lt.mp hstock⟩
    dsimp only
    rw [hfinal, hunit, Decimal.ofHundredths_sub]
    simp only [Decimal.toHundredths_ofHundredths]
    exact Int.sub_sub_self _ _

namespace OrderTotals

theorem total_ofLines (lines : List PricedLine) :
    (ofLines lines).total = (lines.map fun line => line.price * line.quantity).sum :=
  foldr_add_eq_sum _ lines

theorem discount_ofLines (lines : List PricedLine) :
    (ofLines lines).discount = (lines.map fun line => line.discountAmount * line.quantity).sum :=
  foldr_add_eq_sum _ lines

/-- The final total of lines that are exact is the sum of their subtotals. -/
theorem finalTotal_ofLines {lines : List PricedLine} (h : ∀ line ∈ lines, line.Exact) :
    (ofLines lines).finalTotal = (lines.map (·.subtotal)).sum := by
  change (ofLines lines).total - (ofLines lines).discount = _
  rw [total_ofLines, discount_ofLines, sub_eq_iff_eq_add, ← List.sum_map_add]
  refine congrArg List.sum (List.map_congr_left fun line hline => ?_)
  obtain ⟨hprice, hsubtotal⟩ := h line hline
  rw [hsubtotal, ← hprice, Int.sub_mul, Int.sub_add_cancel]

end OrderTotals
end Storefront
