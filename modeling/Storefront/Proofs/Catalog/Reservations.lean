import Storefront.Proofs.Order.Withdrawal

/-!
Reserving lines of several orders. What a line is priced at depends on its product and not on the
stock, and stock only has to cover what all the lines take together. So it makes no difference which
of two orders takes its lines first.
-/

namespace Storefront

/-- A product as it is listed: without its stock and the time of its last change. -/
def Product.listing (product : Product) : Product :=
  { product with stock := 0, updatedAt := ⟨0, 0⟩ }

/-- The line that so many units of a product come to, whatever is in stock. -/
def Product.quoteLine (product : Product) (prices : List Price) (quantity : Int) (now : Instant) :
    Except Error PricedLine := do
  let quoted ← quote product.id product.offer (prices.map Price.tier) defaultPriceType now
  let finalPrice := quoted.finalPrice.toHundredths
  return {
    productId := product.id
    productName := product.name
    priceType := quoted.priceType
    quantity
    price := quoted.unitPrice.toHundredths
    discountAmount := quoted.discount.toHundredths
    finalPrice
    subtotal := finalPrice * quantity }

/-- The line is what the request comes to; its product is for sale. -/
def LineRequest.QuotedAs (now : Instant) (prices : List Price) (rows : List Product)
    (request : LineRequest) (line : PricedLine) : Prop :=
  ∃ product, rows.find? (fun row => row.id = request.productId) = some product ∧
    product.isActive ∧
      product.quoteLine (Order.pricesIn prices request.productId) request.quantity now = .ok line

/-- The lines are what the requests come to, and stock covers them. -/
structure Order.Reservable (now : Instant) (prices : List Price) (requests : List LineRequest)
    (rows : List Product) (lines : List PricedLine) : Prop where
  quoted : List.Forall₂ (LineRequest.QuotedAs now prices rows) requests lines
  stocked : ∀ row ∈ rows, PricedLine.soldIn row.id lines ≤ row.stock

/-- The same offers are open at two times. -/
def Product.SameOffers (rows : List Product) (now later : Instant) : Prop :=
  ∀ row ∈ rows, row.offer.isOpen now = row.offer.isOpen later

theorem priceLine_eq_ok_iff {product : Product} {prices : List Price} {quantity : Int}
    {now : Instant} {line : PricedLine} :
    priceLine product prices quantity now = .ok line ↔
      product.isActive ∧ quantity ≤ product.stock ∧
        product.quoteLine prices quantity now = .ok line := by
  unfold priceLine
  split_ifs with hactive hstock
  · simp_all
  · simp [Int.not_le.mpr hstock]
  · rw [Bool.not_eq_true', Bool.not_eq_false] at hactive
    rw [and_iff_right hactive, and_iff_right (Int.not_lt.mp hstock)]
    rfl

namespace Product

variable {product : Product} {rows : List Product}

/-- What is quoted shows in the listing. -/
theorem quoteLine_listing (prices : List Price) (quantity : Int) (now : Instant) :
    product.listing.quoteLine prices quantity now = product.quoteLine prices quantity now := rfl

/-- A change of stock does not show in the listings. -/
theorem listings_writeTo {id : ProductId} (unique : (rows.map (·.id)).Nodup)
    (found : rows.find? (fun row => row.id = id) = some product) (stock : Int) (now : Instant) :
    (writeTo { product with stock } now rows).map listing = rows.map listing := by
  refine map_updateWhere_of_mem fun row hrow hsame => ?_
  obtain rfl : row = product :=
    eq_of_key_eq unique hrow (mem_of_find?_key found).1 (of_decide_eq_true hsame)
  rfl

theorem of_quoteLine {prices : List Price} {quantity : Int} {now : Instant} {line : PricedLine}
    (h : product.quoteLine prices quantity now = .ok line) :
    line.productId = product.id ∧ line.quantity = quantity := by
  rw [quoteLine] at h
  cases hquote : quote product.id product.offer (prices.map Price.tier) defaultPriceType now with
  | error cause =>
    rw [hquote] at h
    cases h
  | ok quoted =>
    rw [hquote] at h
    cases h
    exact ⟨rfl, rfl⟩

/-- Products are known, but for the times of their changes, by their listings and their stock. -/
theorem map_unmarked_eq (rows : List Product) :
    rows.map unmarked = List.zipWith (fun listed entry => { listed with stock := entry.2 })
      (rows.map listing) (shelf (fun _ => 0) rows) := by
  rw [shelf, List.zipWith_map, List.zipWith_self]
  refine List.map_congr_left fun row _ => ?_
  rw [Int.add_zero]
  rfl

/-- A quote is the same while the same offers are open. -/
theorem quoteLine_of_sameOffers {now later : Instant} (prices : List Price) (quantity : Int)
    (h : product.offer.isOpen now = product.offer.isOpen later) :
    product.quoteLine prices quantity now = product.quoteLine prices quantity later := by
  have hpercent : product.offer.activePercent now = product.offer.activePercent later := by
    rw [Offer.activePercent, Offer.activePercent, h]
  have hquote : quote product.id product.offer (prices.map Price.tier) defaultPriceType now =
      quote product.id product.offer (prices.map Price.tier) defaultPriceType later := by
    simp only [quote, Offer.finalPrice, hpercent]
  rw [quoteLine, quoteLine, hquote]

end Product

theorem PricedLine.soldIn_nonneg {lines : List PricedLine}
    (positive : ∀ line ∈ lines, 0 < line.quantity) (id : ProductId) : 0 ≤ soldIn id lines :=
  List.sum_nonneg (List.forall_mem_map.mpr fun line hline =>
    Int.le_of_lt (positive line (List.mem_filter.mp hline).1))

namespace LineRequest.QuotedAs

variable {now later : Instant} {prices : List Price} {rows rows' : List Product}
  {request : LineRequest} {line : PricedLine}

/-- A quote depends on products as they are listed. -/
theorem congr (h : QuotedAs now prices rows request line)
    (same : rows'.map Product.listing = rows.map Product.listing) :
    QuotedAs now prices rows' request line := by
  have hfind (list : List Product) :
      (list.map Product.listing).find? (fun row => row.id = request.productId) =
        (list.find? fun row => row.id = request.productId).map Product.listing := by
    rw [List.find?_map]
    rfl
  obtain ⟨product, hproduct, hactive, hquote⟩ := h
  have hlisted := congrArg (List.find? fun row => decide (row.id = request.productId)) same
  rw [hfind, hfind, hproduct, Option.map_some, Option.map_eq_some_iff] at hlisted
  obtain ⟨product', hproduct', hlisting⟩ := hlisted
  refine ⟨product', hproduct', ?_, ?_⟩
  · exact (congrArg (·.isActive) hlisting).trans hactive
  · rw [← Product.quoteLine_listing, hlisting, Product.quoteLine_listing]
    exact hquote

theorem of_sameOffers (h : QuotedAs now prices rows request line)
    (offers : Product.SameOffers rows now later) : QuotedAs later prices rows request line := by
  obtain ⟨product, hproduct, hactive, hquote⟩ := h
  refine ⟨product, hproduct, hactive, ?_⟩
  rw [← Product.quoteLine_of_sameOffers _ _ (offers product (mem_of_find?_key hproduct).1)]
  exact hquote

end LineRequest.QuotedAs

namespace Order.Reserved

variable {clock : Clock} {prices : List Price} {requests : List LineRequest}
  {rows after : List Product} {lines : List PricedLine}

theorem listings_eq (h : Reserved clock prices requests rows lines after)
    (unique : (rows.map (·.id)).Nodup) : after.map Product.listing = rows.map Product.listing := by
  induction h with
  | nil rows => rfl
  | @cons request rest product line lines rows after found priced natural reserved ih =>
    rw [ih (by rw [Product.ids_writeTo]; exact unique), Product.listings_writeTo unique found]

/-- What is left in stock once lines are reserved. -/
theorem shelf_left (h : Reserved clock prices requests rows lines after)
    (unique : (rows.map (·.id)).Nodup) (elsewhere : ProductId → Int) :
    Product.shelf elsewhere after =
      Product.shelf (fun id => elsewhere id - PricedLine.soldIn id lines) rows := by
  have hunits : elsewhere = fun id =>
      elsewhere id - PricedLine.soldIn id lines + PricedLine.soldIn id lines := by
    funext id
    omega
  rw [← h.shelf_eq unique, ← hunits]

/-- What holds of the stock that is left. -/
theorem forall_stock_iff (h : Reserved clock prices requests rows lines after)
    (unique : (rows.map (·.id)).Nodup) {P : ProductId → Int → Prop} :
    (∀ row ∈ after, P row.id row.stock) ↔
      ∀ row ∈ rows, P row.id (row.stock - PricedLine.soldIn row.id lines) := by
  have hforall (elsewhere : ProductId → Int) (list : List Product) :
      (∀ entry ∈ Product.shelf elsewhere list, P entry.1 entry.2) ↔
        ∀ row ∈ list, P row.id (row.stock + elsewhere row.id) := List.forall_mem_map
  have hafter := hforall (fun _ => 0) after
  rw [h.shelf_left unique, hforall] at hafter
  simpa only [Int.add_zero, Int.zero_sub, Int.sub_eq_add_neg, Int.zero_add] using hafter.symm

/-- Each line is what its request comes to, whatever was reserved before it. -/
theorem quoted (h : Reserved clock prices requests rows lines after)
    (unique : (rows.map (·.id)).Nodup) :
    List.Forall₂ (LineRequest.QuotedAs clock.wall prices rows) requests lines := by
  induction h with
  | nil rows => exact .nil
  | @cons request rest product line lines rows after found priced natural reserved ih =>
    obtain ⟨hactive, -, hquote⟩ := priceLine_eq_ok_iff.mp priced
    have hwritten := Product.listings_writeTo unique found (product.stock - request.quantity)
      clock.store
    refine .cons ⟨product, found, hactive, hquote⟩ ?_
    have hrest := ih (by rw [Product.ids_writeTo]; exact unique)
    exact hrest.imp fun _ _ hquoted => hquoted.congr hwritten.symm

/-- What was reserved was there to be. -/
theorem reservable (h : Reserved clock prices requests rows lines after)
    (unique : (rows.map (·.id)).Nodup) (natural : ∀ row ∈ rows, 0 ≤ row.stock) :
    Reservable clock.wall prices requests rows lines := by
  refine ⟨h.quoted unique, fun row hrow => ?_⟩
  have hleft := (h.forall_stock_iff (P := fun _ stock => 0 ≤ stock) unique).mp
    (h.natural natural) row hrow
  omega

end Order.Reserved

/-- What covers all lines still covers the rest of them once the first is taken. -/
theorem Product.covered_writeTo {product : Product} {rows : List Product} {line : PricedLine}
    {lines : List PricedLine} (unique : (rows.map (·.id)).Nodup) (stored : product ∈ rows)
    (own : line.productId = product.id)
    (covered : ∀ row ∈ rows, PricedLine.soldIn row.id (line :: lines) ≤ row.stock)
    (now : Instant) :
    ∀ row ∈ writeTo { product with stock := product.stock - line.quantity } now rows,
      PricedLine.soldIn row.id lines ≤ row.stock := by
  intro row hrow
  obtain ⟨old, hold, rfl⟩ := mem_updateWhere.mp hrow
  have hcovered := covered old hold
  rw [PricedLine.soldIn_cons, own] at hcovered
  by_cases hsame : old.id = product.id
  · obtain rfl : old = product := eq_of_key_eq unique hold stored hsame
    rw [if_pos rfl] at hcovered
    rw [if_pos (decide_eq_true rfl)]
    change PricedLine.soldIn old.id lines ≤ old.stock - line.quantity
    omega
  · rw [if_neg fun h => hsame h.symm, Int.zero_add] at hcovered
    rwa [if_neg fun h => hsame (of_decide_eq_true h)]

/-- What is there can be reserved. -/
theorem Order.Reservable.exists_reserved {clock : Clock} {prices : List Price}
    {requests : List LineRequest} {rows : List Product} {lines : List PricedLine}
    (h : Reservable clock.wall prices requests rows lines)
    (unique : (rows.map (·.id)).Nodup) (natural : ∀ row ∈ rows, 0 ≤ row.stock)
    (positive : ∀ line ∈ lines, 0 < line.quantity) :
    ∃ after, Reserved clock prices requests rows lines after := by
  obtain ⟨hquoted, hcovered⟩ := h
  induction requests generalizing rows lines with
  | nil =>
    cases hquoted
    exact ⟨rows, .nil rows⟩
  | cons request rest ih =>
    obtain ⟨line, lines, ⟨product, hfound, hactive, hquote⟩, hrest, rfl⟩ :=
      List.forall₂_cons_left_iff.mp hquoted
    obtain ⟨hproduct, hquantity⟩ := Product.of_quoteLine hquote
    obtain ⟨-, hothers⟩ := List.forall_mem_cons.mp positive
    have hstored := (mem_of_find?_key hfound).1
    have hunits := hcovered product hstored
    have hsold := PricedLine.soldIn_nonneg hothers product.id
    rw [PricedLine.soldIn_cons, if_pos hproduct, hquantity] at hunits
    have hnatural : 0 ≤ product.stock - request.quantity := by omega
    have htaken := Product.covered_writeTo unique hstored hproduct hcovered clock.store
    have hlisted := Product.listings_writeTo unique hfound (product.stock - request.quantity)
      clock.store
    rw [hquantity] at htaken
    obtain ⟨after, hafter⟩ := ih (by rw [Product.ids_writeTo]; exact unique)
      (Product.natural_writeTo hnatural natural) hothers
      (hrest.imp fun _ _ hquoted => hquoted.congr hlisted) htaken
    have hpriced := priceLine_eq_ok_iff.mpr ⟨hactive, by omega, hquote⟩
    exact ⟨after, .cons hfound hpriced hnatural hafter⟩

namespace Order.Reserved

variable {first second : Clock} {prices : List Price} {requests requests' : List LineRequest}
  {rows middle after : List Product} {lines lines' : List PricedLine}

/-- What can still be reserved once some lines are: stock has to cover both. -/
theorem reservable_after_iff {now : Instant} (h : Reserved first prices requests rows lines middle)
    (unique : (rows.map (·.id)).Nodup) :
    Reservable now prices requests' middle lines' ↔
      List.Forall₂ (LineRequest.QuotedAs now prices rows) requests' lines' ∧
        ∀ row ∈ rows,
          PricedLine.soldIn row.id lines + PricedLine.soldIn row.id lines' ≤ row.stock := by
  have hlistings := h.listings_eq unique
  have hleft := h.forall_stock_iff (P := fun id stock => PricedLine.soldIn id lines' ≤ stock) unique
  have hboth : (∀ row ∈ rows, PricedLine.soldIn row.id lines' ≤
      row.stock - PricedLine.soldIn row.id lines) ↔ ∀ row ∈ rows,
        PricedLine.soldIn row.id lines + PricedLine.soldIn row.id lines' ≤ row.stock := by
    refine forall₂_congr fun row _ => ?_
    omega
  constructor
  · rintro ⟨hquoted, hcovered⟩
    exact ⟨hquoted.imp fun _ _ hquoted => hquoted.congr hlistings.symm,
      hboth.mp (hleft.mp hcovered)⟩
  · rintro ⟨hquoted, hcovered⟩
    exact ⟨hquoted.imp fun _ _ hquoted => hquoted.congr hlistings,
      hleft.mpr (hboth.mpr hcovered)⟩

/-- What two reservations leave, by what their lines come to. -/
theorem unmarked_after (h : Reserved first prices requests rows lines middle)
    (h' : Reserved second prices requests' middle lines' after)
    (unique : (rows.map (·.id)).Nodup) :
    after.map Product.unmarked =
      List.zipWith (fun listed entry => { listed with stock := entry.2 })
        (rows.map Product.listing)
        (Product.shelf (fun id => 0 - (PricedLine.soldIn id lines + PricedLine.soldIn id lines'))
          rows) := by
  have hunique : (middle.map (·.id)).Nodup := by rwa [h.ids_eq]
  have hunits : (fun id => 0 - PricedLine.soldIn id lines' - PricedLine.soldIn id lines) =
      fun id => 0 - (PricedLine.soldIn id lines + PricedLine.soldIn id lines') := by
    funext id
    omega
  rw [Product.map_unmarked_eq, h'.listings_eq hunique, h.listings_eq unique, h'.shelf_left hunique,
    h.shelf_left unique, hunits]

/-- Of two reservations that were made one after the other, either may be made first: it takes the
same lines at the same prices and leaves the same in stock. -/
theorem swap {first' second' : Clock} (unique : (rows.map (·.id)).Nodup)
    (natural : ∀ row ∈ rows, 0 ≤ row.stock) (positive : ∀ line ∈ lines, 0 < line.quantity)
    (positive' : ∀ line ∈ lines', 0 < line.quantity)
    (offers : Product.SameOffers rows first.wall first'.wall)
    (offers' : Product.SameOffers rows second.wall second'.wall)
    (h : Reserved first prices requests rows lines middle)
    (h' : Reserved second prices requests' middle lines' after) :
    ∃ between last, Reserved second' prices requests' rows lines' between ∧
      Reserved first' prices requests between lines last ∧
      last.map Product.unmarked = after.map Product.unmarked := by
  have hunique : (middle.map (·.id)).Nodup := by rwa [h.ids_eq]
  obtain ⟨hquoted', hcovered⟩ :=
    (h.reservable_after_iff unique).mp (h'.reservable hunique (h.natural natural))
  -- The second reservation finds all that it found after the first one.
  have hsecond : Reservable second'.wall prices requests' rows lines' := by
    refine ⟨hquoted'.imp fun _ _ hquoted => hquoted.of_sameOffers offers', fun row hrow => ?_⟩
    have hboth := hcovered row hrow
    have hfirst := PricedLine.soldIn_nonneg positive row.id
    omega
  obtain ⟨between, hbetween⟩ := hsecond.exists_reserved unique natural positive'
  -- The first one finds enough, since stock covers both.
  have hfirst : Reservable first'.wall prices requests between lines := by
    refine (hbetween.reservable_after_iff unique).mpr ⟨?_, fun row hrow => ?_⟩
    · exact (h.quoted unique).imp fun _ _ hquoted => hquoted.of_sameOffers offers
    · rw [Int.add_comm]
      exact hcovered row hrow
  obtain ⟨last, hlast⟩ := hfirst.exists_reserved (by rwa [hbetween.ids_eq])
    (hbetween.natural natural) positive
  refine ⟨between, last, hbetween, hlast, ?_⟩
  have hunits : (fun id => 0 - (PricedLine.soldIn id lines' + PricedLine.soldIn id lines)) =
      fun id => 0 - (PricedLine.soldIn id lines + PricedLine.soldIn id lines') := by
    funext id
    rw [Int.add_comm]
  rw [hbetween.unmarked_after hlast unique, h.unmarked_after h' unique, hunits]

end Order.Reserved

end Storefront
