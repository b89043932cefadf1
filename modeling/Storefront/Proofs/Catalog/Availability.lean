import Storefront.Proofs.Catalog.Reservations
import Storefront.Proofs.Order.Quantities
import Storefront.Proofs.Session.Failures

/-!
What is on offer. So many units of a product can be ordered if it exists, is active, has them in
stock and has a price; lines of different products are reserved one after the other, and the first
that cannot be is the one that is named.
-/

namespace Storefront

/-- The texts that an order takes over fit their columns. -/
structure Tables.Fitting (t : Tables) : Prop where
  product_names : ∀ product ∈ t.products, fitsText product.name
  price_types : ∀ price ∈ t.productPrices, fitsVarchar 16 price.priceType
  destinations : ∀ address ∈ t.addresses, address.destination.isStorable

/-- The price that a product is sold at: that of the default tier, or else the first. -/
def Order.priceIn (prices : List Price) (id : ProductId) : Option Price :=
  ((pricesIn prices id).find? fun price => price.priceType = defaultPriceType) <|>
    (pricesIn prices id).head?

/-- What one unit of a product costs without a discount. -/
def Order.unitPrice (prices : List Price) (id : ProductId) : Cents :=
  ((priceIn prices id).map (·.amount)).getD 0

/-- The product is sold at a price of the default tier, or at its first price if it has none. -/
structure Price.Sells (price : Price) (prices : List Price) (id : ProductId) : Prop where
  stored : price ∈ prices
  own : price.productId = id
  preferred : price.priceType = defaultPriceType ∨ ∀ other ∈ prices, other.productId = id →
    other.priceType ≠ defaultPriceType ∧ price.id ≤ other.id

/-- So many units of a product at a price, with the discount that is open. -/
def Product.lineAt (product : Product) (price : Price) (quantity : Int) (now : Instant) :
    PricedLine :=
  let finalPrice := (product.offer.finalPrice (.ofHundredths price.amount) now).toHundredths
  { productId := product.id
    productName := product.name
    priceType := price.priceType
    quantity
    price := price.amount
    discountAmount := price.amount - finalPrice
    finalPrice
    subtotal := finalPrice * quantity }

/-- A product once the units that are asked of it are taken. -/
def Product.taken (requests : List LineRequest) (now : Instant) (row : Product) : Product :=
  if row.id ∈ requests.map (·.productId) then
    { row with stock := row.stock - LineRequest.unitsOf row.id requests, updatedAt := now }
  else row

/-- So many units of a product can be ordered. -/
structure Order.Available (prices : List Price) (rows : List Product) (id : ProductId)
    (units : Int) : Prop where
  product : ∃ product ∈ rows, product.id = id ∧ product.isActive ∧ units ≤ product.stock
  price : ∃ price ∈ prices, price.productId = id

/-- So many units of a product cannot be ordered, for the first of four causes. -/
inductive Order.Lacks (prices : List Price) (rows : List Product) (id : ProductId) (units : Int) :
    Error → Prop
  | unknown (missing : ∀ product ∈ rows, product.id ≠ id) :
    Lacks prices rows id units (.productNotFound id)
  | inactive {product : Product} (stored : product ∈ rows) (own : product.id = id)
      (inactive : product.isActive = false) : Lacks prices rows id units (.productUnavailable id)
  | short {product : Product} (stored : product ∈ rows) (own : product.id = id)
      (active : product.isActive) (short : product.stock < units) :
      Lacks prices rows id units (.insufficientStock id units product.stock)
  | unpriced {product : Product} (stored : product ∈ rows) (own : product.id = id)
      (active : product.isActive) (stocked : units ≤ product.stock)
      (unpriced : ∀ price ∈ prices, price.productId ≠ id) :
      Lacks prices rows id units (.priceNotFound id)

section Prices

variable {prices : List Price} {id : ProductId} {price : Price}

theorem Order.mem_pricesIn :
    price ∈ pricesIn prices id ↔ price ∈ prices ∧ price.productId = id := by
  rw [pricesIn, mem_sortBy, List.mem_filter, decide_eq_true_eq]

theorem Order.pricesIn_eq_nil :
    pricesIn prices id = [] ↔ ∀ price ∈ prices, price.productId ≠ id := by
  simp [List.eq_nil_iff_forall_not_mem, mem_pricesIn]

theorem Order.priceIn_eq_none :
    priceIn prices id = none ↔ ∀ price ∈ prices, price.productId ≠ id := by
  rw [← pricesIn_eq_nil, priceIn, Option.orElse_eq_orElse, Option.orElse_eq_or]
  cases hprices : pricesIn prices id with
  | nil => simp
  | cons price rest => simp

/-- The price that is found is the one that the product is sold at. -/
theorem Order.sells_of_priceIn (h : priceIn prices id = some price) : price.Sells prices id := by
  rw [priceIn, Option.orElse_eq_orElse, Option.orElse_eq_or, Option.or_eq_some_iff] at h
  rcases h with hfound | ⟨hnone, hhead⟩
  · obtain ⟨hstored, hown⟩ := mem_pricesIn.mp (List.mem_of_find?_eq_some hfound)
    exact ⟨hstored, hown, .inl (by simpa using List.find?_some hfound)⟩
  · obtain ⟨hstored, hown⟩ := mem_pricesIn.mp (List.mem_of_mem_head? hhead)
    refine ⟨hstored, hown, .inr fun other hother hsame => ?_⟩
    have hmem : other ∈ pricesIn prices id := mem_pricesIn.mpr ⟨hother, hsame⟩
    refine ⟨by simpa using List.find?_eq_none.mp hnone other hmem, ?_⟩
    have hsorted : (pricesIn prices id).Pairwise fun a b => decide (a.id ≤ b.id) := by
      refine pairwise_sortBy (fun a b c hab hbc => ?_) (fun a b => ?_) _
      · simp only [decide_eq_true_eq] at hab hbc ⊢
        exact Int.le_trans hab hbc
      · simpa only [decide_eq_true_eq] using Int.le_total a.id b.id
    obtain ⟨rest, hrest⟩ := List.head?_eq_some_iff.mp hhead
    rw [hrest] at hsorted hmem
    rcases List.mem_cons.mp hmem with rfl | hmem
    · exact Int.le_refl _
    · exact of_decide_eq_true ((List.pairwise_cons.mp hsorted).1 other hmem)

theorem Order.unitPrice_eq (h : priceIn prices id = some price) :
    unitPrice prices id = price.amount := by
  rw [unitPrice, h]
  rfl

/-- Tiers are chosen as the prices that offer them. -/
theorem Order.tierFor_pricesIn :
    tierFor ((pricesIn prices id).map Price.tier) defaultPriceType =
      (priceIn prices id).map Price.tier := by
  rw [tierFor, priceIn, List.find?_map, List.head?_map]
  simp only [Option.orElse_eq_orElse, Option.orElse_eq_or, Option.map_or]
  rfl

end Prices

theorem Product.quoteLine_eq (product : Product) (prices : List Price) (id : ProductId)
    (quantity : Int) (now : Instant) :
    product.quoteLine (Order.pricesIn prices id) quantity now =
      match Order.priceIn prices id with
      | none => .error (.priceNotFound product.id)
      | some price => .ok (product.lineAt price quantity now) := by
  rw [quoteLine, quote, Order.tierFor_pricesIn]
  cases Order.priceIn prices id with
  | none => rfl
  | some price =>
    have hunit : price.tier.price = Decimal.ofHundredths price.amount := rfl
    have hplaces := product.offer.places_finalPrice now (congrArg (·.places) hunit)
    have hfinal := Decimal.eq_ofHundredths hplaces
    have hdiscount :
        (price.tier.price - product.offer.finalPrice price.tier.price now).toHundredths =
        price.amount - (product.offer.finalPrice price.tier.price now).toHundredths := by
      rw [hfinal, hunit, Decimal.ofHundredths_sub]
      simp only [Decimal.toHundredths_ofHundredths]
    refine congrArg Except.ok ?_
    rw [lineAt, PricedLine.mk.injEq]
    exact ⟨rfl, rfl, rfl, rfl, Decimal.toHundredths_ofHundredths _, hdiscount, rfl, rfl⟩

namespace Order

variable {clock : Clock} {prices : List Price} {requests : List LineRequest}
  {rows rows' after : List Product} {lines : List PricedLine} {id : ProductId} {units : Int}
  {cause : Error}

theorem Available.not_lacks (unique : (rows.map (·.id)).Nodup)
    (h : Available prices rows id units) : ¬ Lacks prices rows id units cause := by
  obtain ⟨⟨product, hstored, rfl, hactive, hstock⟩, price, hprice, hown⟩ := h
  intro hlacks
  have hsame {other : Product} (hother : other ∈ rows) (hid : other.id = product.id) :
      other = product := eq_of_key_eq unique hother hstored hid
  cases hlacks with
  | unknown missing => exact missing product hstored rfl
  | inactive stored own inactive =>
    rw [hsame stored own, hactive] at inactive
    cases inactive
  | short stored own active short =>
    rw [hsame stored own] at short
    exact absurd hstock (Int.not_le.mpr short)
  | unpriced stored own active stocked unpriced => exact unpriced price hprice hown

/-- What can be ordered of a product depends on no other. -/
theorem Available.congr (h : Available prices rows id units)
    (same : ∀ row : Product, row.id = id → row ∈ rows → row ∈ rows') :
    Available prices rows' id units := by
  obtain ⟨⟨product, hstored, hid, hactive, hstock⟩, hprice⟩ := h
  exact ⟨⟨product, same product hid hstored, hid, hactive, hstock⟩, hprice⟩

theorem Lacks.congr (h : Lacks prices rows id units cause)
    (same : ∀ row : Product, row.id = id → (row ∈ rows ↔ row ∈ rows')) :
    Lacks prices rows' id units cause := by
  cases h with
  | unknown missing =>
    exact .unknown fun product hproduct hid => missing product ((same product hid).mpr hproduct) hid
  | inactive stored own inactive => exact .inactive ((same _ own).mp stored) own inactive
  | short stored own active short => exact .short ((same _ own).mp stored) own active short
  | unpriced stored own active stocked unpriced =>
    exact .unpriced ((same _ own).mp stored) own active stocked unpriced

/-- A line that cannot be priced is one that cannot be ordered. -/
theorem lacks_of_priceLine {product : Product} {now : Instant} (stored : product ∈ rows)
    (h : priceLine product (pricesIn prices product.id) units now = .error cause) :
    Lacks prices rows product.id units cause := by
  unfold priceLine at h
  split_ifs at h with hactive hshort
  · obtain rfl := Except.error.inj h
    exact .inactive stored rfl (by simpa using hactive)
  · obtain rfl := Except.error.inj h
    exact .short stored rfl (by simpa using hactive) hshort
  · have hquote : product.quoteLine (pricesIn prices product.id) units now = .error cause := h
    rw [Product.quoteLine_eq] at hquote
    cases hprice : priceIn prices product.id with
    | none =>
      rw [hprice] at hquote
      obtain rfl := Except.error.inj hquote
      exact .unpriced stored rfl (by simpa using hactive) (Int.not_lt.mp hshort)
        (priceIn_eq_none.mp hprice)
    | some price =>
      rw [hprice] at hquote
      cases hquote

/-- A line that is priced is one that can be ordered, at the price that its product is sold at. -/
theorem available_of_priceLine {product : Product} {now : Instant} {line : PricedLine}
    (stored : product ∈ rows)
    (h : priceLine product (pricesIn prices product.id) units now = .ok line) :
    Available prices rows product.id units ∧
      ∃ price, priceIn prices product.id = some price ∧ line = product.lineAt price units now := by
  obtain ⟨hactive, hstock, hquote⟩ := priceLine_eq_ok_iff.mp h
  rw [Product.quoteLine_eq] at hquote
  cases hprice : priceIn prices product.id with
  | none =>
    rw [hprice] at hquote
    cases hquote
  | some price =>
    rw [hprice] at hquote
    obtain ⟨hstored, hown, -⟩ := sells_of_priceIn hprice
    exact ⟨⟨⟨product, stored, rfl, hactive, hstock⟩, price, hstored, hown⟩, price, rfl,
      (Except.ok.inj hquote).symm⟩

end Order

namespace Product

variable {requests : List LineRequest} {request : LineRequest} {rows : List Product}
  {product : Product} {now : Instant}

theorem taken_nil : taken [] now = fun row => row := rfl

@[simp] theorem id_taken (row : Product) : (row.taken requests now).id = row.id := by
  unfold taken
  split <;> rfl

theorem taken_of_not_mem {row : Product} (h : row.id ∉ requests.map (·.productId)) :
    row.taken requests now = row :=
  if_neg h

/-- The products that are not asked for stay as they are. -/
theorem mem_map_taken {row : Product} (h : row.id ∉ requests.map (·.productId)) :
    row ∈ rows.map (taken requests now) ↔ row ∈ rows := by
  rw [List.mem_map]
  constructor
  · rintro ⟨old, hold, rfl⟩
    rw [id_taken] at h
    rwa [taken_of_not_mem h]
  · exact fun hrow => ⟨row, hrow, taken_of_not_mem h⟩

theorem taken_of_updatedAt {row : Product} (h : row.updatedAt = now) :
    row.taken requests now =
      { row with stock := row.stock - LineRequest.unitsOf row.id requests } := by
  by_cases hmem : row.id ∈ requests.map (·.productId)
  · rw [taken, if_pos hmem, ← h]
  · rw [taken_of_not_mem hmem, LineRequest.unitsOf_eq_zero hmem, Int.sub_zero]

theorem taken_cons_of_eq {row : Product} (h : row.id = request.productId) :
    row.taken (request :: requests) now = { row with
      stock := row.stock - request.quantity - LineRequest.unitsOf row.id requests
      updatedAt := now } := by
  rw [taken, if_pos (by simp [h]), LineRequest.unitsOf_cons, if_pos h.symm, Int.sub_sub]

theorem taken_cons_of_ne {row : Product} (h : row.id ≠ request.productId) :
    row.taken (request :: requests) now = row.taken requests now := by
  simp [taken, LineRequest.unitsOf_cons, h, Ne.symm h]

/-- Units are taken for one line after the other. -/
theorem map_taken_cons (unique : (rows.map (·.id)).Nodup)
    (found : rows.find? (fun row => row.id = request.productId) = some product) :
    (writeTo { product with stock := product.stock - request.quantity } now rows).map
        (taken requests now) = rows.map (taken (request :: requests) now) := by
  obtain ⟨hstored, hid⟩ := mem_of_find?_key found
  rw [writeTo, updateWhere, List.map_map]
  refine List.map_congr_left fun row hrow => ?_
  by_cases hsame : row.id = request.productId
  · obtain rfl : row = product := eq_of_key_eq unique hrow hstored (hsame.trans hid.symm)
    rw [Function.comp_apply, if_pos (decide_eq_true rfl), taken_cons_of_eq hsame]
    exact taken_of_updatedAt rfl
  · rw [Function.comp_apply, if_neg fun h => hsame ((of_decide_eq_true h).trans hid),
      taken_cons_of_ne hsame]

end Product

namespace Order

variable {clock : Clock} {prices : List Price} {requests : List LineRequest}
  {rows after : List Product} {lines : List PricedLine}

/-- What a reservation leaves of the products. -/
theorem Reserved.after_eq (h : Reserved clock prices requests rows lines after)
    (unique : (rows.map (·.id)).Nodup) :
    after = rows.map (Product.taken requests clock.store) := by
  induction h with
  | nil rows => rw [Product.taken_nil, List.map_id']
  | cons found priced natural reserved ih =>
    rw [ih (by rw [Product.ids_writeTo]; exact unique), Product.map_taken_cons unique found]

/-- A reserved line could be ordered, at the price that its product is sold at. -/
theorem Reserved.lines_at (h : Reserved clock prices requests rows lines after)
    (unique : (rows.map (·.id)).Nodup) (distinct : (requests.map (·.productId)).Nodup) :
    List.Forall₂ (fun request line => Available prices rows request.productId request.quantity ∧
      ∃ product ∈ rows, product.id = request.productId ∧ ∃ price,
        priceIn prices request.productId = some price ∧
          line = product.lineAt price request.quantity clock.wall) requests lines := by
  induction h with
  | nil rows => exact .nil
  | @cons request rest product line lines rows after found priced natural reserved ih =>
    obtain ⟨hstored, hid⟩ := mem_of_find?_key found
    obtain ⟨hnew, hdistinct⟩ := List.nodup_cons.mp distinct
    rw [← hid] at priced
    obtain ⟨havailable, price, hprice, hline⟩ := available_of_priceLine hstored priced
    rw [hid] at havailable hprice
    refine .cons ⟨havailable, product, hstored, hid, price, hprice, hline⟩ ?_
    have hrest := ih (by rw [Product.ids_writeTo]; exact unique) hdistinct
    -- The rows of the other products are those that were there before.
    have hkept {row : Product} (hne : row.id ≠ request.productId) (hrow : row ∈ Product.writeTo
        { product with stock := product.stock - request.quantity } clock.store rows) :
        row ∈ rows := by
      obtain ⟨old, hold, rfl⟩ := mem_updateWhere.mp hrow
      split at hne
      next hwritten => exact absurd ((of_decide_eq_true hwritten).trans hid) hne
      next hkept => rwa [if_neg hkept]
    have hothers : ∀ other ∈ rest, other.productId ≠ request.productId := fun other hother hsame =>
      hnew (List.mem_map.mpr ⟨other, hother, hsame⟩)
    refine ((List.forall₂_and_left rest lines).mpr ⟨hothers, hrest⟩).imp ?_
    rintro other line ⟨hne, havailable, product, hstored, hid, hline⟩
    have hne {row : Product} (hrow : row.id = other.productId) : row.id ≠ request.productId :=
      hrow ▸ hne
    exact ⟨havailable.congr fun row hrow => hkept (hne hrow), product, hkept (hne hid) hstored, hid,
      hline⟩

end Order

end Storefront
