import Mathlib.Data.List.Nodup
import Mathlib.Data.List.Perm.Basic
import Storefront.Proofs.Cart.Operations

/-!
The lines of a cart that is replaced. First go the lines of products that are not asked for; then
every request is put in, over the line of its product if there is one. What comes of it is one line
for each request, whatever was in the cart before.
-/

namespace Storefront.CartItem

variable {id : CartId} {now : Instant} {request : LineRequest} {requests : List LineRequest}
  {line : CartItem} {lines others : List CartItem}

/-- What tells lines apart. -/
def key (line : CartItem) : CartId × ProductId :=
  (line.cartId, line.productId)

/-- The line is that of the requested product in the cart. -/
def isFor (id : CartId) (request : LineRequest) (line : CartItem) : Bool :=
  line.cartId = id && line.productId = request.productId

theorem isFor_iff :
    isFor id request line ↔ line.cartId = id ∧ line.productId = request.productId := by
  simp [isFor]

theorem isFor_eq_false (h : line.cartId = id → line.productId ≠ request.productId) :
    isFor id request line = false := by
  rw [Bool.eq_false_iff, Ne, isFor_iff, not_and]
  exact h

/-- The line that a request comes to. A line of the product that is there stays what it is, but for
its quantity. -/
def placed (id : CartId) (now : Instant) (lines : List CartItem) (request : LineRequest) :
    CartItem where
  cartId := id
  productId := request.productId
  quantity := request.quantity
  createdAt := ((lines.find? (isFor id request)).map (·.createdAt)).getD now
  updatedAt := now

theorem map_request_placed :
    (requests.map (placed id now lines)).map CartItem.request = requests := by
  rw [List.map_map]
  exact List.map_id requests

/-- The line with the quantity of a request. -/
def revised (now : Instant) (request : LineRequest) (line : CartItem) : CartItem :=
  { line with quantity := request.quantity, updatedAt := now }

/-- The lines once a request is put into a cart. -/
def put (id : CartId) (now : Instant) (lines : List CartItem) (request : LineRequest) :
    List CartItem :=
  if lines.any (isFor id request) then
    updateWhere (isFor id request) (revised now request) lines
  else lines ++ [⟨id, request.productId, request.quantity, now, now⟩]

/-- The lines without those of the cart that no request is for. -/
def remaining (id : CartId) (requests : List LineRequest) (lines : List CartItem) : List CartItem :=
  lines.filter fun line =>
    !(line.cartId = id && requests.all fun request => request.productId ≠ line.productId)

/-- The lines once a cart is replaced. -/
def replaced (id : CartId) (now : Instant) (requests : List LineRequest) (lines : List CartItem) :
    List CartItem :=
  requests.foldl (put id now) (remaining id requests lines)

theorem find?_isFor_eq_some (unique : (lines.map key).Nodup) (hline : line ∈ lines)
    (h : isFor id request line) : lines.find? (isFor id request) = some line := by
  have hsame : ∀ other, isFor id request other = decide (key other = key line) := by
    intro other
    obtain ⟨hcart, hproduct⟩ := isFor_iff.mp h
    simp [isFor, key, hcart, hproduct]
  rw [funext hsame]
  exact (find?_key_iff unique).mpr ⟨hline, rfl⟩

theorem mem_put (unique : (lines.map key).Nodup) :
    line ∈ put id now lines request ↔
      line = placed id now lines request ∨ line ∈ lines ∧ isFor id request line = false := by
  rw [put]
  split
  next hany =>
    obtain ⟨old, hold, hfor⟩ := List.any_eq_true.mp hany
    obtain ⟨hcart, hproduct⟩ := isFor_iff.mp hfor
    have hplaced : placed id now lines request = revised now request old := by
      rw [placed, find?_isFor_eq_some unique hold hfor, ← hcart, ← hproduct]
      rfl
    rw [mem_updateWhere, hplaced]
    constructor
    · rintro ⟨row, hrow, rfl⟩
      by_cases h : isFor id request row
      · obtain rfl : row = old := Option.some.inj
          ((find?_isFor_eq_some unique hrow h).symm.trans (find?_isFor_eq_some unique hold hfor))
        exact .inl (if_pos h)
      · exact .inr ⟨by rwa [if_neg h], by rwa [if_neg h, ← Bool.not_eq_true]⟩
    · rintro (rfl | ⟨hline, h⟩)
      · exact ⟨old, hold, (if_pos hfor).symm⟩
      · exact ⟨line, hline, by rw [h]; rfl⟩
  next hnone =>
    rw [List.any_eq_true, not_exists] at hnone
    have hfree : ∀ row ∈ lines, isFor id request row = false := fun row hrow =>
      Bool.eq_false_iff.mpr fun h => hnone row ⟨hrow, h⟩
    have hplaced : placed id now lines request =
        ⟨id, request.productId, request.quantity, now, now⟩ := by
      rw [placed, List.find?_eq_none.mpr fun row hrow => by rw [hfree row hrow]; decide]
      rfl
    rw [List.mem_append, List.mem_singleton, hplaced, or_comm]
    exact or_congr_right ⟨fun hline => ⟨hline, hfree line hline⟩, And.left⟩

theorem nodup_put (unique : (lines.map key).Nodup) :
    ((put id now lines request).map key).Nodup := by
  rw [put]
  split
  · have hkeys : (updateWhere (isFor id request) (revised now request) lines).map key =
        lines.map key := map_updateWhere fun _ => rfl
    rwa [hkeys]
  next hnone =>
    rw [List.any_eq_true, not_exists] at hnone
    refine nodup_keys_append unique (List.nodup_singleton _) fun row hrow other hother h => ?_
    obtain rfl := List.mem_singleton.mp hrow
    obtain ⟨hcart, hproduct⟩ := Prod.mk.inj h
    exact hnone other ⟨hother, isFor_iff.mpr ⟨hcart, hproduct⟩⟩

/-- Other lines of a cart are not concerned by what is put into it. -/
theorem placed_put {other : LineRequest} (apart : other.productId ≠ request.productId) :
    placed id now (put id now lines request) other = placed id now lines other := by
  have hapart : ∀ row, isFor id other row → isFor id request row = false := fun row h =>
    isFor_eq_false fun _ hsame => apart ((isFor_iff.mp h).2.symm.trans hsame)
  have hfind : (put id now lines request).find? (isFor id other) =
      lines.find? (isFor id other) := by
    rw [put]
    split
    · have hupdated : (updateWhere (isFor id request) (revised now request) lines).find?
          (isFor id other) = (lines.find? (isFor id other)).map fun row =>
            if isFor id request row then revised now request row else row :=
        find?_updateWhere fun _ => rfl
      rw [hupdated]
      cases hfound : lines.find? (isFor id other) with
      | none => rfl
      | some row => simp [hapart row (List.find?_some hfound)]
    · rw [List.find?_append, List.find?_cons_of_neg, List.find?_nil, Option.or_none]
      rw [isFor_iff]
      exact fun h => apart h.2.symm
  rw [placed, hfind]
  rfl

theorem mem_foldl_put (unique : (lines.map key).Nodup)
    (distinct : (requests.map (·.productId)).Nodup) :
    line ∈ requests.foldl (put id now) lines ↔
      (∃ request ∈ requests, line = placed id now lines request) ∨
        line ∈ lines ∧ ∀ request ∈ requests, isFor id request line = false := by
  induction requests generalizing lines with
  | nil => simp
  | cons request rest ih =>
    rw [List.map_cons, List.nodup_cons] at distinct
    obtain ⟨hfirst, hrest⟩ := distinct
    have happart : ∀ other ∈ rest, other.productId ≠ request.productId := fun other hother h =>
      hfirst (h ▸ List.mem_map_of_mem hother)
    have hplaced : ∀ other ∈ rest,
        placed id now (put id now lines request) other = placed id now lines other :=
      fun other hother => placed_put (happart other hother)
    have hfree : ∀ other ∈ rest, isFor id other (placed id now lines request) = false :=
      fun other hother => isFor_eq_false fun _ h => happart other hother h.symm
    rw [List.foldl_cons, ih (nodup_put unique) hrest, mem_put unique]
    simp only [List.mem_cons, exists_eq_or_imp, forall_eq_or_imp]
    constructor
    · rintro (⟨other, hother, rfl⟩ | ⟨rfl | ⟨hline, h⟩, hothers⟩)
      · exact .inl (.inr ⟨other, hother, hplaced other hother⟩)
      · exact .inl (.inl rfl)
      · exact .inr ⟨hline, h, hothers⟩
    · rintro ((rfl | ⟨other, hother, rfl⟩) | ⟨hline, h, hothers⟩)
      · exact .inr ⟨.inl rfl, hfree⟩
      · exact .inl ⟨other, hother, (hplaced other hother).symm⟩
      · exact .inr ⟨.inr ⟨hline, h⟩, hothers⟩

/-- A line of the cart remains if a request is for it. -/
theorem mem_remaining : line ∈ remaining id requests lines ↔
    line ∈ lines ∧ (line.cartId = id → ∃ request ∈ requests, isFor id request line) := by
  rw [remaining, List.mem_filter]
  refine and_congr_right fun _ => ?_
  by_cases hcart : line.cartId = id
  · simpa [isFor, hcart] using exists_congr fun request => and_congr_right fun _ => eq_comm
  · simp [hcart]

theorem placed_remaining (h : request ∈ requests) :
    placed id now (remaining id requests lines) request = placed id now lines request := by
  have hfind : (remaining id requests lines).find? (isFor id request) =
      lines.find? (isFor id request) := by
    rw [remaining, List.find?_filter]
    congr
    funext line
    by_cases hfor : isFor id request line
    · have hsome : ∃ other ∈ requests, other.productId = line.productId :=
        ⟨request, h, (isFor_iff.mp hfor).2.symm⟩
      simpa [hfor] using .inr hsome
    · simp [hfor]
  rw [placed, hfind]
  rfl

theorem nodup_remaining (unique : (lines.map key).Nodup) :
    ((remaining id requests lines).map key).Nodup :=
  unique.sublist (List.filter_sublist.map _)

/-- A cart that is replaced holds a line for each request; the lines of other carts are as
before. -/
theorem mem_replaced (unique : (lines.map key).Nodup)
    (distinct : (requests.map (·.productId)).Nodup) :
    line ∈ replaced id now requests lines ↔
      (∃ request ∈ requests, line = placed id now lines request) ∨
        line ∈ lines ∧ line.cartId ≠ id := by
  rw [replaced, mem_foldl_put (nodup_remaining unique) distinct]
  refine or_congr (exists_congr fun request => and_congr_right fun hrequest => ?_) ?_
  · rw [placed_remaining hrequest]
  · rw [mem_remaining, and_assoc]
    refine and_congr_right fun _ => ⟨fun ⟨hremains, hfree⟩ hcart => ?_, fun hcart => ?_⟩
    · obtain ⟨request, hrequest, hfor⟩ := hremains hcart
      rw [hfree request hrequest] at hfor
      cases hfor
    · exact ⟨fun h => absurd h hcart, fun _ _ => isFor_eq_false fun h => absurd h hcart⟩

theorem nodup_foldl_put (unique : (lines.map key).Nodup) :
    ((requests.foldl (put id now) lines).map key).Nodup := by
  induction requests generalizing lines with
  | nil => exact unique
  | cons request rest ih => exact ih (nodup_put unique)

theorem nodup_replaced (unique : (lines.map key).Nodup) :
    ((replaced id now requests lines).map key).Nodup :=
  nodup_foldl_put (nodup_remaining unique)

/-- The lines of other carts stay as they are, in their order. -/
theorem others_replaced :
    (replaced id now requests lines).filter (fun line => line.cartId ≠ id) =
      lines.filter fun line => line.cartId ≠ id := by
  have hfold : ∀ rows : List CartItem,
      (requests.foldl (put id now) rows).filter (fun line => line.cartId ≠ id) =
        rows.filter fun line => line.cartId ≠ id := by
    induction requests with
    | nil => exact fun _ => rfl
    | cons request rest ih =>
      intro rows
      rw [List.foldl_cons, ih]
      refine Cart.filter_put (fun _ => rfl) (fun line _ hother => ?_) (by simp)
      exact isFor_eq_false fun hcart => absurd hcart (of_decide_eq_true hother)
  rw [replaced, hfold, remaining, List.filter_filter]
  refine List.filter_congr fun line _ => ?_
  by_cases hcart : line.cartId = id
  · simp [hcart]
  · simp [hcart]

/-- The lines of a replaced cart are those that the requests come to. -/
theorem own_replaced (unique : (lines.map key).Nodup)
    (distinct : (requests.map (·.productId)).Nodup) :
    ((replaced id now requests lines).filter fun line => line.cartId = id).Perm
      (requests.map (placed id now lines)) := by
  have hown : ((replaced id now requests lines).filter fun line => line.cartId = id).Nodup :=
    (nodup_replaced unique).of_map.filter _
  have hplaced : (requests.map (placed id now lines)).Nodup := by
    refine List.Nodup.of_map (·.productId) ?_
    rwa [List.map_map]
  refine (List.perm_ext_iff_of_nodup hown hplaced).mpr fun line => ?_
  rw [List.mem_filter, mem_replaced unique distinct, decide_eq_true_eq, List.mem_map]
  constructor
  · rintro ⟨⟨request, hrequest, rfl⟩ | ⟨-, hne⟩, hcart⟩
    · exact ⟨request, hrequest, rfl⟩
    · exact absurd hcart hne
  · rintro ⟨request, hrequest, rfl⟩
    exact ⟨.inl ⟨request, hrequest, rfl⟩, rfl⟩

/-! Times aside. -/

/-- The line without the times at which it was put in and last changed. -/
def timeless (line : CartItem) : CartItem :=
  { line with createdAt := ⟨0, 0⟩, updatedAt := ⟨0, 0⟩ }

/-- Times aside, what a replaced cart holds says nothing of what was in it before. -/
theorem timeless_replaced (unique : (lines.map key).Nodup)
    (distinct : (requests.map (·.productId)).Nodup) :
    ((replaced id now requests lines).map timeless).Perm
      ((requests.map fun request => ⟨id, request.productId, request.quantity, ⟨0, 0⟩, ⟨0, 0⟩⟩) ++
        (lines.filter fun line => line.cartId ≠ id).map timeless) := by
  have hparts : ((replaced id now requests lines).filter (fun line => line.cartId = id) ++
      (replaced id now requests lines).filter fun line => !decide (line.cartId = id)).Perm
        (replaced id now requests lines) := List.filter_append_perm _ _
  have hothers : (replaced id now requests lines).filter (fun line => line.cartId ≠ id) =
      lines.filter fun line => line.cartId ≠ id := others_replaced
  simp only [decide_not] at hothers ⊢
  rw [hothers] at hparts
  refine (hparts.map timeless).symm.trans ?_
  rw [List.map_append]
  refine List.Perm.append_right _ (((own_replaced unique distinct).map timeless).trans ?_)
  rw [List.map_map]
  exact .refl _

/-- The line without the time of its last change. -/
def undated (line : CartItem) : CartItem :=
  { line with updatedAt := ⟨0, 0⟩ }

theorem isFor_undated : isFor id request (undated line) = isFor id request line := rfl

/-- What the requests ask for is in the cart. -/
def Holds (id : CartId) (requests : List LineRequest) (lines : List CartItem) : Prop :=
  ∀ request ∈ requests, (∃ line ∈ lines, isFor id request line) ∧
    ∀ line ∈ lines, isFor id request line → line.quantity = request.quantity

theorem Holds.congr (h : Holds id requests lines) (same : others.map undated = lines.map undated) :
    Holds id requests others := by
  have hline : ∀ line ∈ others, ∃ old ∈ lines, undated old = undated line := fun line hline =>
    List.mem_map.mp (same ▸ List.mem_map_of_mem hline)
  have hold : ∀ old ∈ lines, ∃ line ∈ others, undated line = undated old := fun old hold =>
    List.mem_map.mp (same.symm ▸ List.mem_map_of_mem hold)
  have hfor : ∀ {line other : CartItem} {request : LineRequest}, undated line = undated other →
      isFor id request line = isFor id request other := by
    intro line other request heq
    rw [← isFor_undated, heq, isFor_undated]
  intro request hrequest
  obtain ⟨⟨old, hmem, hasked⟩, hquantity⟩ := h request hrequest
  obtain ⟨line, hmem', heq⟩ := hold old hmem
  refine ⟨⟨line, hmem', (hfor heq).trans hasked⟩, fun other hother h => ?_⟩
  obtain ⟨old, hmem, heq⟩ := hline other hother
  exact (congrArg (·.quantity) heq.symm).trans (hquantity old hmem ((hfor heq).trans h))

/-- Putting in what is there already changes nothing but the time of the last change. -/
theorem undated_put (held : ∃ line ∈ lines, isFor id request line)
    (same : ∀ line ∈ lines, isFor id request line → line.quantity = request.quantity) :
    (put id now lines request).map undated = lines.map undated := by
  rw [put, if_pos (List.any_eq_true.mpr held), updateWhere, List.map_map]
  refine List.map_congr_left fun line hline => ?_
  rw [Function.comp_apply]
  split
  next h => rw [undated, revised, ← same line hline h]; rfl
  next => rfl

theorem undated_foldl_put (h : Holds id requests lines) :
    (requests.foldl (put id now) lines).map undated = lines.map undated := by
  induction requests generalizing lines with
  | nil => rfl
  | cons request rest ih =>
    obtain ⟨⟨held, same⟩, hrest⟩ := List.forall_mem_cons.mp h
    have hput : (put id now lines request).map undated = lines.map undated :=
      undated_put held same
    exact (ih (Holds.congr hrest hput)).trans hput

/-- Replacing a cart once more by the same lines changes nothing but the times of the last
change. -/
theorem undated_replaced (unique : (lines.map key).Nodup)
    (distinct : (requests.map (·.productId)).Nodup) {later : Instant} :
    (replaced id later requests (replaced id now requests lines)).map undated =
      (replaced id now requests lines).map undated := by
  have hmem : ∀ line, line ∈ replaced id now requests lines ↔ _ := fun line =>
    mem_replaced unique distinct
  have hremaining : remaining id requests (replaced id now requests lines) =
      replaced id now requests lines := by
    refine List.filter_eq_self.mpr fun line hline => ?_
    have hremains : line ∈ remaining id requests (replaced id now requests lines) := by
      refine mem_remaining.mpr ⟨hline, fun hcart => ?_⟩
      rcases (hmem line).mp hline with ⟨request, hrequest, rfl⟩ | ⟨-, hne⟩
      · exact ⟨request, hrequest, isFor_iff.mpr ⟨rfl, rfl⟩⟩
      · exact absurd hcart hne
    exact (List.mem_filter.mp hremains).2
  rw [replaced, hremaining]
  refine undated_foldl_put fun request hrequest => ⟨?_, fun line hline hfor => ?_⟩
  · exact ⟨placed id now lines request, (hmem _).mpr (.inl ⟨request, hrequest, rfl⟩),
      isFor_iff.mpr ⟨rfl, rfl⟩⟩
  · obtain ⟨hcart, hproduct⟩ := isFor_iff.mp hfor
    rcases (hmem line).mp hline with ⟨other, hother, rfl⟩ | ⟨-, hne⟩
    · rw [eq_of_key_eq distinct hother hrequest hproduct]
      rfl
    · exact absurd hcart hne

end Storefront.CartItem
