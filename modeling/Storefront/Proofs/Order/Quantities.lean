import Storefront.Proofs.Cart.Lines

/-!
Sums of quantities. Lines are summed per product if each quantity is positive and no product is
asked for too often; the sums are then those of the lines, whatever their order, and the first line
that goes too far is the one that is named.
-/

namespace Storefront.LineRequest

variable {lines summed : List LineRequest} {line : LineRequest} {product : ProductId}
  {quantity : Int} {cause : Error}

/-- The units of a product that lines ask for in all. -/
def unitsOf (product : ProductId) (lines : List LineRequest) : Int :=
  ((lines.filter fun line => line.productId = product).map (·.quantity)).sum

/-- What lines come to if every product has a price. -/
def worth (price : ProductId → Int) (lines : List LineRequest) : Int :=
  (lines.map fun line => price line.productId * line.quantity).sum

/-- Every quantity is positive, and of no product more is asked for than can be ordered. -/
structure Countable (lines : List LineRequest) : Prop where
  positive : ∀ line ∈ lines, 0 < line.quantity
  fits : ∀ line ∈ lines, unitsOf line.productId lines ≤ maxQuantity

/-- Lines that cannot be counted, with what is said of the first line that goes too far. -/
inductive Uncountable : List LineRequest → Error → Prop
  | notPositive {before : List LineRequest} (after : List LineRequest) {line : LineRequest}
      (counted : Countable before) (small : line.quantity ≤ 0) :
      Uncountable (before ++ line :: after)
        (.invalidInput ("Quantity for product " ++ line.productId.repr ++ " must be positive"))
  | tooLarge {before : List LineRequest} (after : List LineRequest) {line : LineRequest}
      (counted : Countable before) (positive : 0 < line.quantity)
      (large : maxQuantity < unitsOf line.productId (before ++ [line])) :
      Uncountable (before ++ line :: after)
        (.invalidInput ("Quantity for product " ++ line.productId.repr ++ " is too large"))

/-- Lines summed per product: one line for each product, which ascend and come to the same whatever
the products cost. -/
structure SumsTo (lines summed : List LineRequest) : Prop where
  ascends : Ascends summed
  products : ∀ product, product ∈ summed.map (·.productId) ↔ product ∈ lines.map (·.productId)
  worth_eq : ∀ price, worth price summed = worth price lines

@[simp] theorem unitsOf_nil : unitsOf product [] = 0 := rfl

theorem unitsOf_cons :
    unitsOf product (line :: lines) =
      (if line.productId = product then line.quantity else 0) + unitsOf product lines := by
  rw [unitsOf, List.filter_cons]
  by_cases h : line.productId = product
  · simp [h, unitsOf]
  · simp [h, unitsOf]

theorem unitsOf_snoc :
    unitsOf product (lines ++ [line]) =
      unitsOf product lines + if line.productId = product then line.quantity else 0 := by
  rw [unitsOf, List.filter_append, List.map_append, List.sum_append]
  by_cases h : line.productId = product
  · simp [h, unitsOf]
  · simp [h, unitsOf]

theorem worth_snoc {price : ProductId → Int} :
    worth price (lines ++ [line]) = worth price lines + price line.productId * line.quantity := by
  simp [worth]

/-- Units are counted by a price of one for the product and of nothing for any other. -/
theorem unitsOf_eq_worth :
    unitsOf product lines = worth (fun id => if id = product then 1 else 0) lines := by
  rw [unitsOf, sum_map_filter]
  refine congrArg List.sum (List.map_congr_left fun line _ => ?_)
  by_cases h : line.productId = product
  · simp [h]
  · simp [h]

theorem unitsOf_eq_zero (h : product ∉ lines.map (·.productId)) : unitsOf product lines = 0 := by
  have hnone : lines.filter (fun line => line.productId = product) = [] := by
    refine List.filter_eq_nil_iff.mpr fun line hline hsame => h ?_
    exact of_decide_eq_true hsame ▸ List.mem_map_of_mem hline
  rw [unitsOf, hnone]
  rfl

/-- If all quantities are positive, the products that are listed are those of which there are
units. -/
theorem mem_products_iff (positive : ∀ line ∈ lines, 0 < line.quantity) :
    product ∈ lines.map (·.productId) ↔ 0 < unitsOf product lines := by
  constructor
  · intro hproduct
    obtain ⟨line, hline, rfl⟩ := List.mem_map.mp hproduct
    refine Int.lt_of_lt_of_le (positive line hline) ?_
    refine List.single_le_sum ?_ _
      (List.mem_map_of_mem (List.mem_filter.mpr ⟨hline, decide_eq_true rfl⟩))
    exact List.forall_mem_map.mpr fun line hline =>
      Int.le_of_lt (positive line (List.mem_filter.mp hline).1)
  · intro hunits
    by_contra hnot
    rw [unitsOf_eq_zero hnot] at hunits
    exact absurd hunits (Int.lt_irrefl 0)

/-! What one more line does to the sums. -/

theorem mem_map_raise {id : ProductId} :
    id ∈ (raise product quantity summed).map (·.productId) ↔
      id = product ∨ id ∈ summed.map (·.productId) := by
  induction summed with
  | nil => simp [raise]
  | cons first rest ih =>
    unfold raise
    split_ifs with hbefore hsame
    · simp
    · simp [hsame]
    · rw [List.map_cons, List.mem_cons, ih, List.map_cons, List.mem_cons]
      exact or_left_comm

theorem worth_raise {price : ProductId → Int} :
    worth price (raise product quantity summed) =
      worth price summed + price product * quantity := by
  induction summed with
  | nil => simp [worth, raise]
  | cons first rest ih =>
    unfold raise
    split_ifs with hbefore hsame
    · simp only [worth, List.map_cons, List.sum_cons]
      omega
    · simp only [worth, List.map_cons, List.sum_cons, hsame, Int.mul_add]
      omega
    · simp only [worth, List.map_cons, List.sum_cons] at ih ⊢
      omega

/-- In lines that ascend, the line of a product has all its units. -/
theorem Ascends.unitsOf_eq (h : Ascends summed) (hline : line ∈ summed) :
    unitsOf line.productId summed = line.quantity := by
  induction summed with
  | nil => cases hline
  | cons first rest ih =>
    obtain ⟨hfirst, hrest⟩ := List.pairwise_cons.mp h
    rw [unitsOf_cons]
    rcases List.mem_cons.mp hline with rfl | hline
    · rw [if_pos rfl, unitsOf_eq_zero, Int.add_zero]
      intro hsame
      obtain ⟨other, hother, hid⟩ := List.mem_map.mp hsame
      exact absurd hid (Int.ne_of_gt (hfirst other hother))
    · have hne : first.productId ≠ line.productId := Int.ne_of_lt (hfirst line hline)
      rw [if_neg hne, Int.zero_add, ih hrest hline]

theorem Ascends.quantityOf_eq (h : Ascends summed) :
    quantityOf product summed = unitsOf product summed := by
  by_cases hmem : product ∈ summed.map (·.productId)
  · obtain ⟨line, hline, rfl⟩ := List.mem_map.mp hmem
    have hunique : (summed.map (·.productId)).Nodup :=
      (List.pairwise_map.mpr h).imp Int.ne_of_lt
    rw [quantityOf, (find?_key_iff hunique).mpr ⟨hline, rfl⟩, h.unitsOf_eq hline]
    rfl
  · rw [quantityOf_eq_zero hmem, unitsOf_eq_zero hmem]

namespace SumsTo

theorem nil : SumsTo [] [] :=
  ⟨List.Pairwise.nil, fun _ => Iff.rfl, fun _ => rfl⟩

theorem units_eq (h : SumsTo lines summed) (product : ProductId) :
    unitsOf product summed = unitsOf product lines := by
  rw [unitsOf_eq_worth, h.worth_eq, unitsOf_eq_worth]

/-- The lines of the sums are known by their products and the units that are asked for. -/
theorem mem_iff (h : SumsTo lines summed) :
    line ∈ summed ↔
      line.productId ∈ lines.map (·.productId) ∧ line.quantity = unitsOf line.productId lines := by
  rw [← h.products, ← h.units_eq]
  constructor
  · intro hline
    exact ⟨List.mem_map_of_mem hline, (h.ascends.unitsOf_eq hline).symm⟩
  · rintro ⟨hproduct, hquantity⟩
    obtain ⟨other, hother, hid⟩ := List.mem_map.mp hproduct
    have hother' := h.ascends.unitsOf_eq hother
    obtain ⟨id, units⟩ := line
    obtain rfl : other.productId = id := hid
    obtain rfl : units = other.quantity := hquantity.trans hother'
    exact hother

theorem distinct (h : SumsTo lines summed) : (summed.map (·.productId)).Nodup :=
  (List.pairwise_map.mpr h.ascends).imp Int.ne_of_lt

/-- Of each product that is listed a positive number of units is asked for. -/
theorem positive (h : SumsTo lines summed) (counted : Countable lines) :
    ∀ line ∈ summed, 0 < line.quantity := by
  intro line hline
  obtain ⟨hproduct, hquantity⟩ := h.mem_iff.mp hline
  rw [hquantity]
  exact (mem_products_iff counted.positive).mp hproduct

/-- Sums are told by which products are listed, and by the units of each. -/
theorem eq_of_units {others summed' : List LineRequest} (h : SumsTo lines summed)
    (h' : SumsTo others summed')
    (products : ∀ product, product ∈ lines.map (·.productId) ↔ product ∈ others.map (·.productId))
    (units : ∀ product, unitsOf product lines = unitsOf product others) : summed = summed' := by
  have hnodup {list : List LineRequest} (hlist : Ascends list) : list.Nodup :=
    hlist.imp fun hlt heq => absurd (congrArg (·.productId) heq) (Int.ne_of_lt hlt)
  refine h.ascends.eq_of_perm h'.ascends ?_
  refine (List.perm_ext_iff_of_nodup (hnodup h.ascends) (hnodup h'.ascends)).mpr fun line => ?_
  rw [h.mem_iff, h'.mem_iff, products, units]

/-- Sums are told by the lines. -/
theorem unique {summed' : List LineRequest} (h : SumsTo lines summed) (h' : SumsTo lines summed') :
    summed = summed' :=
  h.eq_of_units h' (fun _ => Iff.rfl) fun _ => rfl

theorem snoc (h : SumsTo lines summed) (line : LineRequest) :
    SumsTo (lines ++ [line]) (raise line.productId line.quantity summed) := by
  refine ⟨h.ascends.raise, fun id => ?_, fun price => ?_⟩
  · rw [mem_map_raise, h.products, List.map_append, List.mem_append, or_comm]
    simp
  · rw [worth_raise, h.worth_eq, worth_snoc]

/-- With one more line, the units of its product are those that are checked. -/
theorem quantityOf_add (h : SumsTo lines summed) (line : LineRequest) :
    quantityOf line.productId summed + line.quantity =
      unitsOf line.productId (lines ++ [line]) := by
  rw [h.ascends.quantityOf_eq, h.units_eq, unitsOf_snoc, if_pos rfl]

end SumsTo

/-- One more line can be counted if its quantity is positive and not too much for its product. -/
theorem countable_snoc :
    Countable (lines ++ [line]) ↔
      Countable lines ∧ 0 < line.quantity ∧
        unitsOf line.productId (lines ++ [line]) ≤ maxQuantity := by
  constructor
  · rintro ⟨hpositive, hfits⟩
    have hline : line ∈ lines ++ [line] := List.mem_append_right _ (List.mem_singleton_self _)
    have hquantity := hpositive line hline
    refine ⟨⟨fun other hother => hpositive other (List.mem_append_left _ hother),
      fun other hother => ?_⟩, hquantity, hfits line hline⟩
    have hother := hfits other (List.mem_append_left _ hother)
    rw [unitsOf_snoc] at hother
    split at hother <;> omega
  · rintro ⟨⟨hpositive, hfits⟩, hquantity, hlarge⟩
    constructor
    · intro other hother
      rcases List.mem_append.mp hother with hother | hother
      · exact hpositive other hother
      · rwa [List.mem_singleton.mp hother]
    · intro other hother
      by_cases hsame : line.productId = other.productId
      · rwa [← hsame]
      · rcases List.mem_append.mp hother with hother | hother
        · rw [unitsOf_snoc, if_neg hsame, Int.add_zero]
          exact hfits other hother
        · exact absurd (congrArg (·.productId) (List.mem_singleton.mp hother)).symm hsame

theorem Countable.nil : Countable [] := by
  constructor <;> simp

theorem Uncountable.append (h : Uncountable lines cause) (more : List LineRequest) :
    Uncountable (lines ++ more) cause := by
  cases h with
  | notPositive after counted small =>
    rw [List.append_assoc, List.cons_append]
    exact .notPositive (after ++ more) counted small
  | tooLarge after counted positive large =>
    rw [List.append_assoc, List.cons_append]
    exact .tooLarge (after ++ more) counted positive large

theorem Uncountable.eq_invalidInput (h : Uncountable lines cause) :
    ∃ message, cause = .invalidInput message := by
  cases h <;> exact ⟨_, rfl⟩

theorem Countable.not_uncountable (h : Countable lines) : ¬ Uncountable lines cause := by
  intro hnot
  have hearlier {before after : List LineRequest} {line : LineRequest}
      (hall : Countable (before ++ line :: after)) : Countable (before ++ [line]) := by
    induction after using List.reverseRecOn with
    | nil => exact hall
    | append_singleton after other ih =>
      rw [← List.cons_append, ← List.append_assoc] at hall
      exact ih (countable_snoc.mp hall).1
  cases hnot with
  | notPositive after counted small =>
    exact absurd (countable_snoc.mp (hearlier h)).2.1 (Int.not_lt.mpr small)
  | tooLarge after counted positive large =>
    exact absurd (countable_snoc.mp (hearlier h)).2.2 (Int.not_le.mpr large)

theorem aggregate_snoc (lines : List LineRequest) (line : LineRequest) :
    aggregate (lines ++ [line]) = aggregate lines >>= fun summed => addTo summed line := by
  rw [aggregate, List.foldlM_append]
  simp [aggregate]

/-- Lines are either summed per product, or the first one that goes too far is named. -/
theorem aggregate_cases (lines : List LineRequest) :
    (∃ summed, aggregate lines = .ok summed ∧ Countable lines ∧ SumsTo lines summed) ∨
      ∃ cause, aggregate lines = .error cause ∧ Uncountable lines cause := by
  induction lines using List.reverseRecOn with
  | nil => exact .inl ⟨[], rfl, .nil, .nil⟩
  | append_singleton lines line ih =>
    rw [aggregate_snoc]
    rcases ih with ⟨summed, hsummed, hcounted, hsums⟩ | ⟨cause, hcause, hnot⟩
    · have hadd : (Except.ok summed >>= fun summed => addTo summed line) = addTo summed line := rfl
      rw [hsummed, hadd, addTo, hsums.quantityOf_add]
      split_ifs with hsmall hlarge
      · exact .inr ⟨_, rfl, .notPositive [] hcounted hsmall⟩
      · exact .inr ⟨_, rfl, .tooLarge [] hcounted (Int.not_le.mp hsmall) hlarge⟩
      · exact .inl ⟨_, rfl, countable_snoc.mpr ⟨hcounted, Int.not_le.mp hsmall,
          Int.not_lt.mp hlarge⟩, hsums.snoc line⟩
    · rw [hcause]
      exact .inr ⟨cause, rfl, hnot.append [line]⟩

/-- Lines are summed if and only if they can be counted, and then to their sums. -/
theorem aggregate_eq_ok_iff :
    aggregate lines = .ok summed ↔ Countable lines ∧ SumsTo lines summed := by
  rcases aggregate_cases lines with ⟨sums, hsums, hcounted, hto⟩ | ⟨cause, hcause, hnot⟩
  · rw [hsums, Except.ok.injEq]
    constructor
    · rintro rfl
      exact ⟨hcounted, hto⟩
    · exact fun ⟨_, h⟩ => hto.unique h
  · rw [hcause]
    exact iff_of_false (by simp) fun h => h.1.not_uncountable hnot

theorem exists_aggregate_iff : (∃ summed, aggregate lines = .ok summed) ↔ Countable lines := by
  rcases aggregate_cases lines with ⟨summed, hsummed, hcounted, -⟩ | ⟨cause, hcause, hnot⟩
  · exact iff_of_true ⟨summed, hsummed⟩ hcounted
  · refine iff_of_false ?_ fun hcounted => hcounted.not_uncountable hnot
    rw [hcause]
    rintro ⟨summed, ⟨⟩⟩

theorem uncountable_of_aggregate (h : aggregate lines = .error cause) :
    Uncountable lines cause := by
  rcases aggregate_cases lines with ⟨sums, hsums, -⟩ | ⟨cause', hcause, hnot⟩
  · rw [hsums] at h
    cases h
  · obtain rfl : cause' = cause := Except.error.inj (hcause.symm.trans h)
    exact hnot

/-! What the sums depend on. -/

theorem unitsOf_perm {others : List LineRequest} (same : lines.Perm others) :
    unitsOf product lines = unitsOf product others :=
  ((same.filter _).map _).sum_eq

/-- Of a product that is not listed there is nothing to be counted. -/
theorem countable_iff :
    Countable lines ↔
      (∀ line ∈ lines, 0 < line.quantity) ∧ ∀ product, unitsOf product lines ≤ maxQuantity := by
  constructor
  · rintro ⟨hpositive, hfits⟩
    refine ⟨hpositive, fun product => ?_⟩
    by_cases hproduct : product ∈ lines.map (·.productId)
    · obtain ⟨line, hline, rfl⟩ := List.mem_map.mp hproduct
      exact hfits line hline
    · rw [unitsOf_eq_zero hproduct]
      decide
  · rintro ⟨hpositive, hfits⟩
    exact ⟨hpositive, fun line _ => hfits line.productId⟩

/-- What lines sum up to, and whether they do, is told by whether all quantities are positive, which
products are listed and the units of each. -/
theorem toOption_aggregate_congr {others : List LineRequest}
    (positive : (∀ line ∈ lines, 0 < line.quantity) ↔ ∀ line ∈ others, 0 < line.quantity)
    (products : ∀ product, product ∈ lines.map (·.productId) ↔ product ∈ others.map (·.productId))
    (units : ∀ product, unitsOf product lines = unitsOf product others) :
    (aggregate lines).toOption = (aggregate others).toOption := by
  have hcountable : Countable lines ↔ Countable others := by
    simp only [countable_iff, positive, units]
  rcases aggregate_cases lines with ⟨summed, hsummed, hcounted, hsums⟩ | ⟨cause, hcause, hnot⟩
  · rcases aggregate_cases others with ⟨summed', hsummed', -, hsums'⟩ | ⟨cause', -, hnot'⟩
    · rw [hsummed, hsummed', hsums.eq_of_units hsums' products units]
    · exact absurd hnot' (hcountable.mp hcounted).not_uncountable
  · rcases aggregate_cases others with ⟨summed', -, hcounted', -⟩ | ⟨cause', hcause', -⟩
    · exact absurd hnot (hcountable.mpr hcounted').not_uncountable
    · rw [hcause, hcause']
      rfl

/-- Lines are summed if and only if every quantity is positive and of no product more units are
asked for than a quantity can hold. The sums then have one line for each product that is listed, in
strictly ascending order, with all its units; other lines are invalid input. So it makes no
difference in which order lines are listed, nor how positive quantities of a product are split up
between them. -/
theorem aggregate_exact (lines : List LineRequest) :
    ((∃ summed, aggregate lines = .ok summed) ↔
        (∀ line ∈ lines, 0 < line.quantity) ∧
          ∀ product, unitsOf product lines ≤ 2_147_483_647) ∧
      (∀ summed, aggregate lines = .ok summed →
        Ascends summed ∧ ∀ line, line ∈ summed ↔
          line.productId ∈ lines.map (·.productId) ∧
            line.quantity = unitsOf line.productId lines) ∧
      ((∀ summed, aggregate lines ≠ .ok summed) →
        ∃ message, aggregate lines = .error (.invalidInput message)) ∧
      (∀ others, lines.Perm others →
        (aggregate lines).toOption = (aggregate others).toOption) ∧
      (∀ others, (∀ line ∈ lines, 0 < line.quantity) → (∀ line ∈ others, 0 < line.quantity) →
        (∀ product, unitsOf product lines = unitsOf product others) →
          (aggregate lines).toOption = (aggregate others).toOption) := by
  refine ⟨?_, fun summed hsummed => ?_, fun hnever => ?_, fun others hsame => ?_,
    fun others hpositive hpositive' hunits => ?_⟩
  · exact exists_aggregate_iff.trans countable_iff
  · obtain ⟨-, hsums⟩ := aggregate_eq_ok_iff.mp hsummed
    exact ⟨hsums.ascends, fun line => hsums.mem_iff⟩
  · rcases aggregate_cases lines with ⟨summed, hsummed, -⟩ | ⟨cause, hcause, hnot⟩
    · exact absurd hsummed (hnever summed)
    · obtain ⟨message, rfl⟩ := hnot.eq_invalidInput
      exact ⟨message, hcause⟩
  · refine toOption_aggregate_congr ?_ (fun product => (hsame.map _).mem_iff) fun product =>
      unitsOf_perm hsame
    exact forall_congr' fun line => imp_congr_left hsame.mem_iff
  · refine toOption_aggregate_congr (iff_of_true hpositive hpositive') (fun product => ?_) hunits
    rw [mem_products_iff hpositive, mem_products_iff hpositive', hunits]

/-- The units of two products, listed in turn in two ways, and a sum that is too large only with its
last line. -/
theorem aggregate_inTurn :
    (aggregate [⟨7, 1⟩, ⟨3, 2⟩, ⟨7, 4⟩]).toOption = (aggregate [⟨3, 1⟩, ⟨7, 5⟩, ⟨3, 1⟩]).toOption ∧
      ∃ message, aggregate [⟨7, 2_147_483_646⟩, ⟨3, 2⟩, ⟨7, 2⟩] =
        .error (.invalidInput message) := by
  obtain ⟨-, -, -, -, hsame⟩ := aggregate_exact [⟨7, 1⟩, ⟨3, 2⟩, ⟨7, 4⟩]
  obtain ⟨hsummed, -, hrefused, -⟩ := aggregate_exact [⟨7, 2_147_483_646⟩, ⟨3, 2⟩, ⟨7, 2⟩]
  refine ⟨hsame _ (by simp) (by simp) fun product => ?_, hrefused fun summed hsum => ?_⟩
  · simp only [unitsOf_cons, unitsOf_nil]
    split_ifs <;> rfl
  · exact absurd ((hsummed.mp ⟨summed, hsum⟩).2 7) (by decide)

end Storefront.LineRequest
