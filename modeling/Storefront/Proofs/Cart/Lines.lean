import Mathlib.Data.List.Nodup
import Mathlib.Data.List.Perm.Basic
import Storefront.Proofs.Order.Composition

/-!
Lines of different products. They sum up to themselves by product, so that it makes no difference in
which order they are listed.
-/

namespace Storefront.LineRequest

variable {product : ProductId} {quantity : Int} {lines others summed : List LineRequest}

/-- The lines are of different products, and each quantity is one that can be ordered. -/
structure Separate (lines : List LineRequest) : Prop where
  distinct : (lines.map (·.productId)).Nodup
  positive : ∀ line ∈ lines, 0 < line.quantity
  fits : ∀ line ∈ lines, line.quantity ≤ maxQuantity

theorem Separate.perm (h : Separate lines) (same : lines.Perm others) : Separate others :=
  ⟨(same.map _).nodup_iff.mp h.distinct, fun line hline => h.positive line (same.mem_iff.mpr hline),
    fun line hline => h.fits line (same.mem_iff.mpr hline)⟩

/-- A product that has no line yet gets one. -/
theorem raise_perm (new : product ∉ lines.map (·.productId)) :
    (raise product quantity lines).Perm (⟨product, quantity⟩ :: lines) := by
  induction lines with
  | nil => exact .refl _
  | cons line rest ih =>
    rw [List.map_cons, List.mem_cons, not_or] at new
    unfold raise
    rw [if_neg new.1]
    split
    · exact .refl _
    · exact ((ih new.2).cons line).trans (.swap _ _ rest)

theorem quantityOf_eq_zero (new : product ∉ lines.map (·.productId)) :
    quantityOf product lines = 0 := by
  have hnone : lines.find? (fun line => line.productId = product) = none := by
    rw [List.find?_eq_none]
    intro line hline hsame
    exact new (of_decide_eq_true hsame ▸ List.mem_map_of_mem hline)
  rw [quantityOf, hnone]
  rfl

/-- Separate lines are all taken over as they are. -/
theorem exists_foldlM_addTo (h : Separate (summed ++ lines)) :
    ∃ total, lines.foldlM addTo summed = .ok total ∧ total.Perm (summed ++ lines) := by
  induction lines generalizing summed with
  | nil => exact ⟨summed, rfl, by rw [List.append_nil]⟩
  | cons line rest ih =>
    have hmem : line ∈ summed ++ line :: rest := List.mem_append_right _ List.mem_cons_self
    have hnew : line.productId ∉ summed.map (·.productId) := by
      have hdistinct := h.distinct
      rw [List.map_append, List.nodup_append] at hdistinct
      exact fun hold => hdistinct.2.2 _ hold _ List.mem_cons_self rfl
    have hadd : addTo summed line = .ok (raise line.productId line.quantity summed) := by
      have hpositive := h.positive line hmem
      have hfits := h.fits line hmem
      rw [addTo, quantityOf_eq_zero hnew, if_neg (by omega), if_neg (by omega)]
    have hperm : (raise line.productId line.quantity summed ++ rest).Perm
        (summed ++ line :: rest) :=
      ((raise_perm hnew).append_right rest).trans List.perm_middle.symm
    obtain ⟨total, htotal, hsame⟩ := ih (h.perm hperm.symm)
    refine ⟨total, ?_, hsame.trans hperm⟩
    rw [List.foldlM_cons, hadd]
    exact htotal

/-- Separate lines sum up to themselves. -/
theorem exists_aggregate (h : Separate lines) :
    ∃ total, aggregate lines = .ok total ∧ total.Perm lines :=
  exists_foldlM_addTo h

/-- Lines that ascend by product are determined by which lines they are. -/
theorem Ascends.eq_of_perm (h : Ascends lines) (h' : Ascends others) (same : lines.Perm others) :
    lines = others := by
  refine List.Perm.eq_of_pairwise (fun line other _ _ hlt hgt => ?_) h h' same
  exact absurd (Int.lt_trans hlt hgt) (Int.lt_irrefl _)

/-- Separate lines sum up alike in whatever order they are listed. -/
theorem aggregate_eq_of_perm (h : Separate lines) (same : lines.Perm others) :
    aggregate lines = aggregate others := by
  obtain ⟨total, htotal, hperm⟩ := exists_aggregate h
  obtain ⟨total', htotal', hperm'⟩ := exists_aggregate (h.perm same)
  rw [htotal, htotal', (ascends_aggregate htotal).eq_of_perm (ascends_aggregate htotal')
    (hperm.trans (same.trans hperm'.symm))]

end Storefront.LineRequest
