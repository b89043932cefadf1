import Storefront.Proofs.Catalog.Availability
import Storefront.Proofs.Order.Commutation

/-!
Why a checkout is turned down. The address is looked up first, then the lines are counted; after
that each product is looked at in turn, and what all of it comes to has to fit the columns of an
order.
-/

namespace Storefront

open Session

variable {context : Context} {p : Progress} {cause : Error}

/-- The lines that a checkout is over, before they are summed. -/
def Order.linesAsked (t : Tables) (user : UserId) : Source → List LineRequest
  | .items lines => lines
  | .cart =>
    match t.carts.find? fun row => row.userId = user with
    | none => []
    | some cart => (sortBy (fun a b => a.productId ≤ b.productId)
        (t.cartItems.filter fun item => item.cartId = cart.id)).map CartItem.request

/-- Nothing can be asked for: there is no cart or nothing in it, or the lines cannot be counted. -/
inductive Order.Unasked (t : Tables) (user : UserId) : Source → Error → Prop
  | noCart (missing : ∀ cart ∈ t.carts, cart.userId ≠ user) : Unasked t user .cart .cartEmpty
  | emptyCart {cart : Cart} (found : t.carts.find? (fun row => row.userId = user) = some cart)
      (empty : ∀ item ∈ t.cartItems, item.cartId ≠ cart.id) : Unasked t user .cart .cartEmpty
  | uncountable {source : Source} {cause : Error}
      (uncountable : LineRequest.Uncountable (linesAsked t user source) cause) :
      Unasked t user source cause

/-- Lines that an order cannot be placed over: one of them cannot be ordered, and the lines before
it can, or all of them come to more than the columns of an order hold. -/
inductive Order.Unplaceable (prices : List Price) (rows : List Product)
    (requests : List LineRequest) : Error → Prop
  | lacking {before after : List LineRequest} {request : LineRequest} {cause : Error}
      (split : requests = before ++ request :: after)
      (available : ∀ other ∈ before, Available prices rows other.productId other.quantity)
      (lacks : Lacks prices rows request.productId request.quantity cause) :
      Unplaceable prices rows requests cause
  | overpriced
      (available : ∀ request ∈ requests, Available prices rows request.productId request.quantity)
      (large : tenTo 12 ≤ LineRequest.worth (unitPrice prices) requests) :
      Unplaceable prices rows requests .internal

/-- The address exists and is the user's. -/
def Tables.HasAddress (t : Tables) (user : UserId) (id : AddressId) : Prop :=
  ∃ address ∈ t.addresses, address.id = id ∧ address.userId = user

/-- A checkout is turned down, for the first of three causes. -/
inductive Order.TurnedDown (t : Tables) (user : UserId) (addressId : AddressId) (source : Source) :
    Error → Prop
  | noAddress (missing : ¬ t.HasAddress user addressId) :
      TurnedDown t user addressId source .addressNotFound
  | unasked {cause : Error} (address : t.HasAddress user addressId)
      (unasked : Unasked t user source cause) : TurnedDown t user addressId source cause
  | unplaceable {cart : Option CartId} {requests : List LineRequest} {cause : Error}
      (address : t.HasAddress user addressId) (asked : Requested t user source cart requests)
      (unplaceable : Unplaceable t.productPrices t.products requests cause) :
      TurnedDown t user addressId source cause

namespace Order

variable {t t' : Tables} {user : UserId} {source : Source}

theorem linesAsked_congr (carts : t'.carts = t.carts) (items : t'.cartItems = t.cartItems) :
    linesAsked t' user source = linesAsked t user source := by
  unfold linesAsked
  rw [carts, items]

/-- What can be asked for depends on the carts alone. -/
theorem Unasked.congr (carts : t'.carts = t.carts) (items : t'.cartItems = t.cartItems)
    (h : Unasked t user source cause) : Unasked t' user source cause := by
  cases h with
  | noCart missing => exact .noCart (carts ▸ missing)
  | emptyCart found empty => exact .emptyCart (carts ▸ found) (items ▸ empty)
  | uncountable uncountable => exact .uncountable (linesAsked_congr carts items ▸ uncountable)

/-- What is asked for are the sums of the lines. -/
theorem Requested.sums {cart : Option CartId} {requests : List LineRequest}
    (h : Requested t user source cart requests) :
    LineRequest.Countable (linesAsked t user source) ∧
      LineRequest.SumsTo (linesAsked t user source) requests := by
  cases h with
  | cart found filled summed =>
    rw [linesAsked, found]
    exact LineRequest.aggregate_eq_ok_iff.mp summed
  | items summed => exact LineRequest.aggregate_eq_ok_iff.mp summed

end Order

theorem FreeIn.mono {ids : List Int} {next : Int} {m n : Nat} (h : FreeIn ids next n)
    (hle : m ≤ n) :
    FreeIn ids next m :=
  fun id hid hlt => h id hid (by omega)

/-- Nothing that a line comes to is negative or more than its price times its quantity. -/
structure PricedLine.Parts (line : PricedLine) : Prop where
  quantity_pos : 0 < line.quantity
  finalPrice_natural : 0 ≤ line.finalPrice
  discount_natural : 0 ≤ line.discountAmount
  discounts_natural : 0 ≤ line.discountAmount * line.quantity
  subtotal_natural : 0 ≤ line.subtotal
  price_eq : line.price = line.discountAmount + line.finalPrice
  worth_eq : line.price * line.quantity = line.discountAmount * line.quantity + line.subtotal
  price_le : line.price ≤ line.price * line.quantity

namespace PricedLine.Parts

variable {line : PricedLine}

theorem of_priced (h : line.Exact) (h' : line.Discounted) (positive : 0 < line.quantity) :
    line.Parts := by
  obtain ⟨hprice, hsubtotal⟩ := h
  obtain ⟨hfinal, hle⟩ := h'
  have hdiscount : 0 ≤ line.discountAmount := by grind
  have hquantity : 0 ≤ line.quantity := Int.le_of_lt positive
  have hsum : line.price = line.discountAmount + line.finalPrice := by grind
  refine ⟨positive, hfinal, hdiscount, Int.mul_nonneg hdiscount hquantity, ?_, hsum, ?_, ?_⟩
  · rw [hsubtotal]
    exact Int.mul_nonneg hfinal hquantity
  · rw [hsubtotal, hsum, Int.add_mul]
  · have hworth := Int.mul_le_mul_of_nonneg_left positive (Int.le_trans hfinal hle)
    rwa [Int.zero_add, Int.mul_one] at hworth

theorem worth_natural (h : line.Parts) : 0 ≤ line.price * line.quantity := by
  rw [h.worth_eq]
  exact Int.add_nonneg h.discounts_natural h.subtotal_natural

/-- All amounts of a line fit their columns if what it comes to does. -/
theorem fits (h : line.Parts) (hworth : fitsNumeric 12 (line.price * line.quantity)) :
    fitsNumeric 12 line.price ∧ fitsNumeric 12 line.discountAmount ∧
      fitsNumeric 12 line.finalPrice ∧ fitsNumeric 12 line.subtotal := by
  obtain ⟨-, hfinal, hdiscount, hdiscounts, hsubtotal, hprice, hworthEq, hle⟩ := h
  have hfits {n : Int} (natural : 0 ≤ n) (hn : n ≤ line.price * line.quantity) : fitsNumeric 12 n :=
    fitsNumeric_of_le natural hn hworth
  exact ⟨hfits (by grind) hle, hfits hdiscount (by grind), hfits hfinal (by grind),
    hfits hsubtotal (by grind)⟩

end PricedLine.Parts

namespace Order.Reserved

variable {clock : Clock} {prices : List Price} {requests : List LineRequest}
  {rows after : List Product} {lines : List PricedLine}

/-- What an order comes to before discounts. -/
theorem total_eq (h : Reserved clock prices requests rows lines after)
    (unique : (rows.map (·.id)).Nodup) (distinct : (requests.map (·.productId)).Nodup) :
    (OrderTotals.ofLines lines).total = LineRequest.worth (unitPrice prices) requests := by
  have hlines := h.lines_at unique distinct
  clear h distinct
  rw [OrderTotals.total_ofLines]
  induction hlines with
  | nil => rfl
  | cons hline _ ih =>
    obtain ⟨-, product, -, -, price, hprice, rfl⟩ := hline
    rw [List.map_cons, List.sum_cons, ih, LineRequest.worth, LineRequest.worth, List.map_cons,
      List.sum_cons, unitPrice_eq hprice]
    rfl

/-- Each requested line could be ordered. -/
theorem available (h : Reserved clock prices requests rows lines after)
    (unique : (rows.map (·.id)).Nodup) (distinct : (requests.map (·.productId)).Nodup) :
    ∀ request ∈ requests, Available prices rows request.productId request.quantity := by
  have hlines := h.lines_at unique distinct
  clear h distinct
  induction hlines with
  | nil => simp
  | cons hline _ ih => exact List.forall_mem_cons.mpr ⟨hline.1, ih⟩

theorem exists_lineAt (h : Reserved clock prices requests rows lines after)
    (unique : (rows.map (·.id)).Nodup) (distinct : (requests.map (·.productId)).Nodup) :
    ∀ line ∈ lines, ∃ request ∈ requests, ∃ product ∈ rows, product.id = request.productId ∧
      ∃ price, priceIn prices request.productId = some price ∧
        line = product.lineAt price request.quantity clock.wall := by
  have hlines := h.lines_at unique distinct
  clear h distinct
  induction hlines with
  | nil => simp
  | @cons request line requests lines hline _ ih =>
    refine List.forall_mem_cons.mpr ⟨⟨request, List.mem_cons_self, hline.2⟩, fun other hother => ?_⟩
    obtain ⟨request', hrequest', hother'⟩ := ih other hother
    exact ⟨request', List.mem_cons_of_mem _ hrequest', hother'⟩

/-- Lines that do not come to too much can be stored, and so can their sums. -/
theorem storable (h : Reserved clock prices requests rows lines after)
    (unique : (rows.map (·.id)).Nodup) (distinct : (requests.map (·.productId)).Nodup)
    (natural : ∀ price ∈ prices, 0 ≤ price.amount)
    (positive : ∀ request ∈ requests, 0 < request.quantity)
    (names : ∀ product ∈ rows, fitsText product.name)
    (types : ∀ price ∈ prices, fitsVarchar 16 price.priceType)
    (small : LineRequest.worth (unitPrice prices) requests < tenTo 12) :
    (OrderTotals.ofLines lines).isStorable ∧ ∀ line ∈ lines, line.isStorable := by
  have hexact := h.exact
  have hat := h.exists_lineAt unique distinct
  have hpositive : ∀ line ∈ lines, 0 < line.quantity := by
    intro line hline
    obtain ⟨request, hrequest, product, -, -, price, -, rfl⟩ := hat line hline
    exact positive request hrequest
  have hparts : ∀ line ∈ lines, line.Parts := fun line hline =>
    .of_priced (hexact line hline) (h.discounted natural line hline) (hpositive line hline)
  -- Every amount lies between nothing and what the order comes to before discounts.
  have htotal := h.total_eq unique distinct
  have hfits {n : Int} (hn : 0 ≤ n) (hle : n ≤ (OrderTotals.ofLines lines).total) :
      fitsNumeric 12 n := by
    rw [htotal] at hle
    rw [fitsNumeric, decide_eq_true_eq]
    omega
  have hfinal := OrderTotals.finalTotal_ofLines hexact
  have hdiscount : 0 ≤ (OrderTotals.ofLines lines).discount := by
    rw [OrderTotals.discount_ofLines]
    exact List.sum_nonneg (List.forall_mem_map.mpr fun line hline =>
      (hparts line hline).discounts_natural)
  have hsubtotals : 0 ≤ (lines.map (·.subtotal)).sum :=
    List.sum_nonneg (List.forall_mem_map.mpr fun line hline => (hparts line hline).subtotal_natural)
  have hsum : (OrderTotals.ofLines lines).finalTotal =
      (OrderTotals.ofLines lines).total - (OrderTotals.ofLines lines).discount := rfl
  constructor
  · simp only [OrderTotals.isStorable, Bool.and_eq_true]
    exact ⟨⟨hfits (by grind) (by grind), hfits hdiscount (by grind)⟩, hfits (by grind) (by grind)⟩
  · intro line hline
    have hworth : fitsNumeric 12 (line.price * line.quantity) := by
      refine hfits (hparts line hline).worth_natural ?_
      rw [OrderTotals.total_ofLines]
      exact List.single_le_sum (List.forall_mem_map.mpr fun other hother =>
        (hparts other hother).worth_natural) _ (List.mem_map_of_mem hline)
    obtain ⟨request, -, product, hproduct, -, price, hsells, heq⟩ := hat line hline
    have hname : fitsText line.productName := by
      rw [heq]
      exact names product hproduct
    have htype : fitsVarchar 16 line.priceType := by
      rw [heq]
      exact types price (sells_of_priceIn hsells).stored
    obtain ⟨hprice, hdiscount, hfinal, hsubtotal⟩ := (hparts line hline).fits hworth
    simp only [PricedLine.isStorable, Bool.and_eq_true, decide_eq_true_eq]
    exact ⟨⟨⟨⟨⟨⟨hname, htype⟩, hpositive line hline⟩, hprice⟩, hdiscount⟩, hfinal⟩, hsubtotal⟩

theorem small_of_storable (h : Reserved clock prices requests rows lines after)
    (unique : (rows.map (·.id)).Nodup) (distinct : (requests.map (·.productId)).Nodup)
    (storable : (OrderTotals.ofLines lines).isStorable) :
    LineRequest.worth (unitPrice prices) requests < tenTo 12 := by
  rw [← h.total_eq unique distinct]
  simp only [OrderTotals.isStorable, Bool.and_eq_true, fitsNumeric, decide_eq_true_eq] at storable
  omega

end Order.Reserved

namespace Product

@[simp] theorem not_fails_find {id : ProductId} (calm : p.fault = none) :
    ¬ Fails (find id) context p cause :=
  Table.not_fails_selectFirst calm

@[simp] theorem not_fails_prices {id : ProductId} (calm : p.fault = none) :
    ¬ Fails (prices id) context p cause := by
  simp [prices, calm]

end Product

@[simp] theorem Address.not_fails_findFor {user : UserId} {id : AddressId} (calm : p.fault = none) :
    ¬ Fails (findFor user id) context p cause :=
  Table.not_fails_selectFirst calm

namespace Cart

variable {user : UserId}

@[simp] theorem not_fails_findFor (calm : p.fault = none) :
    ¬ Fails (findFor user) context p cause :=
  Table.not_fails_selectFirst calm

@[simp] theorem not_fails_lines {id : CartId} (calm : p.fault = none) :
    ¬ Fails (lines id) context p cause := by
  simp [lines, calm]

theorem not_fails_fetch (calm : p.fault = none) : ¬ Fails (fetch user) context p cause := by
  unfold fetch
  simp only [fails_bind, not_fails_findFor calm, returns_findFor calm, false_or, and_assoc,
    exists_and_left, exists_eq_left]
  cases p.tables.carts.find? fun row => row.userId = user with
  | none => simp
  | some cart => simp [calm]

theorem missing_of_returns_fetch {p' : Progress} (calm : p.fault = none)
    (h : Returns (fetch user) context p none p') :
    p.tables.carts.find? (fun row => row.userId = user) = none := by
  obtain ⟨found, middle, hfound, h⟩ := returns_bind.mp h
  obtain ⟨rfl, rfl⟩ := (returns_findFor calm).mp hfound
  cases hcart : middle.tables.carts.find? fun row => row.userId = user with
  | none => rfl
  | some cart =>
    rw [hcart] at h
    simp at h

end Cart

namespace Order

/-- A line that is not reserved is one that cannot be ordered. -/
theorem lacks_of_fails_reserve {request : LineRequest} (calm : p.fault = none)
    (h : Fails (reserve context.clock.wall request) context p cause) :
    Lacks p.tables.productPrices p.tables.products request.productId request.quantity cause := by
  unfold reserve at h
  simp only [fails_bind, Product.not_fails_find calm, Product.not_fails_prices calm,
    Product.returns_find calm, fails_found, returns_found, Product.returns_prices calm,
    fails_ofExcept, returns_ofExcept, fails_discard, not_fails_pure, and_false, exists_false,
    or_false, false_or, and_assoc, exists_and_left, exists_eq_left] at h
  rcases h with ⟨hnone, rfl⟩ | ⟨product, hfound, hpriced | ⟨line, hpriced, hsave⟩⟩
  · exact .unknown (find?_key_eq_none.mp hnone)
  · obtain ⟨hstored, hid⟩ := mem_of_find?_key hfound
    rw [← hid] at hpriced ⊢
    exact lacks_of_priceLine hstored hpriced
  · obtain ⟨-, hstock, -⟩ := priceLine_eq_ok_iff.mp hpriced
    have hstored := hfound
    rw [← (mem_of_find?_key hfound).2] at hstored
    have hnatural : 0 ≤ product.stock - request.quantity := Int.sub_nonneg_of_le hstock
    have hsaved : Succeeds (Product.save { product with stock := product.stock - request.quantity })
        context p :=
      ⟨_, _, (Product.returns_save calm).mpr ⟨product, hstored, hnatural, rfl, rfl⟩⟩
    exact absurd hsave hsaved.not_fails

variable {user : UserId} {addressId : AddressId} {method : PaymentMethod} {source : Source}
  {requests : List LineRequest}

/-- Lines that are not all reserved are those that an order cannot be placed over. -/
theorem unplaceable_of_fails_mapM (calm : p.fault = none)
    (unique : (p.tables.products.map (·.id)).Nodup)
    (distinct : (requests.map (·.productId)).Nodup)
    (h : Fails (requests.mapM (reserve context.clock.wall)) context p cause) :
    Unplaceable p.tables.productPrices p.tables.products requests cause := by
  obtain ⟨before, request, rest, lines, middle, rfl, hbefore, hfails⟩ := fails_mapM.mp h
  obtain ⟨products, hreserved, rfl⟩ := (returns_mapM_reserve calm).mp hbefore
  rw [List.map_append, List.map_cons, List.nodup_append] at distinct
  obtain ⟨hdistinct, -, hapart⟩ := distinct
  have hnew : request.productId ∉ before.map (·.productId) := fun hold =>
    hapart _ hold _ List.mem_cons_self rfl
  refine .lacking rfl (hreserved.available unique hdistinct)
    ((lacks_of_fails_reserve (by exact calm) hfails).congr fun row hid => ?_)
  rw [hreserved.after_eq unique]
  exact Product.mem_map_taken (hid ▸ hnew)

theorem eq_internal_of_fails_create {totals : OrderTotals} {address : AddressId}
    (calm : p.fault = none) (h : Fails (create user totals address method) context p cause) :
    cause = .internal := by
  unfold create at h
  simp only [fails_bind, not_fails_storeTime, returns_storeTime, not_fails_sequences,
    returns_sequences, Table.fails_insert calm, not_fails_pure, false_or, or_false, and_false,
    exists_false, and_assoc, exists_and_left, exists_eq_left] at h
  exact h.2

theorem eq_internal_of_fails_createAll {order : OrderId} {lines : List PricedLine}
    (calm : p.fault = none) (h : Fails (OrderItem.createAll order lines) context p cause) :
    cause = .internal := by
  unfold OrderItem.createAll at h
  simp only [fails_bind, not_fails_storeTime, returns_storeTime, not_fails_sequences,
    returns_sequences, Table.fails_insert calm, false_or, and_assoc, exists_and_left,
    exists_eq_left] at h
  exact h.2

/-- Lines over which no order is written are those that none can be placed over. -/
theorem unplaceable_of_fails_write {copy : AddressId}
    (h : Fails (write user copy method requests) context p cause) (calm : p.fault = none)
    (copied : ∃ row ∈ p.tables.orderAddresses, row.id = copy)
    (unique : (p.tables.products.map (·.id)).Nodup)
    (natural : ∀ price ∈ p.tables.productPrices, 0 ≤ price.amount) (fitting : p.tables.Fitting)
    (distinct : (requests.map (·.productId)).Nodup)
    (positive : ∀ request ∈ requests, 0 < request.quantity)
    (room : FreeIn (p.tables.orders.map (·.id)) p.sequences.order 1)
    (items : FreeIn (p.tables.orderItems.map (·.id)) p.sequences.orderItem requests.length) :
    Unplaceable p.tables.productPrices p.tables.products requests cause := by
  have hfails := h
  unfold write at hfails
  simp only [fails_bind, not_fails_wallTime, returns_wallTime, false_or, and_assoc, exists_and_left,
    exists_eq_left] at hfails
  rcases hfails with hfails | ⟨lines, middle, hlines, hfails⟩
  · exact unplaceable_of_fails_mapM calm unique distinct hfails
  · obtain ⟨products, hreserved, rfl⟩ := (returns_mapM_reserve calm).mp hlines
    by_cases hsmall : LineRequest.worth (unitPrice p.tables.productPrices) requests < tenTo 12
    · obtain ⟨htotals, hstorable⟩ := hreserved.storable unique distinct natural positive
        fitting.product_names fitting.price_types hsmall
      rw [← hreserved.length_eq] at items
      have hwritten : Succeeds (write user copy method requests) context p :=
        ⟨_, _, (returns_write calm copied).mpr
          ⟨lines, products, hreserved, htotals, room, hstorable,
          items, rfl, rfl⟩⟩
      exact absurd h hwritten.not_fails
    · obtain rfl : cause = .internal := by
        rcases hfails with hfails | ⟨order, created, hcreate, hfails | ⟨u, added, -, hfails⟩⟩
        · exact eq_internal_of_fails_create (by exact calm) hfails
        · exact eq_internal_of_fails_createAll (hcreate.fault_eq_none calm) hfails
        · exact absurd hfails not_fails_pure
      exact .overpriced (hreserved.available unique distinct) (Int.not_lt.mp hsmall)

/-- An address that is not copied is not the user's. -/
theorem not_hasAddress_of_fails_copyAddress (calm : p.fault = none) (fitting : p.tables.Fitting)
    (room : FreeIn (p.tables.orderAddresses.map (·.id)) p.sequences.orderAddress 1)
    (h : Fails (copyAddress user addressId) context p cause) :
    ¬ p.tables.HasAddress user addressId ∧ cause = .addressNotFound := by
  cases hfound : p.tables.addresses.find? fun row => row.id = addressId && row.userId = user with
  | some address =>
    have hfits := fitting.destinations address (List.mem_of_find?_eq_some hfound)
    have hcopied : Succeeds (copyAddress user addressId) context p :=
      ⟨_, _, (returns_copyAddress calm).mpr ⟨address, hfound, hfits, room, rfl, rfl⟩⟩
    exact absurd h hcopied.not_fails
  | none =>
    have hmissing : ¬ p.tables.HasAddress user addressId := by
      rintro ⟨address, hstored, hid, howner⟩
      simpa [hid, howner] using List.find?_eq_none.mp hfound address hstored
    simp only [copyAddress, fails_bind, Address.not_fails_findFor calm,
      Address.returns_findFor calm, fails_found, returns_found, hfound, reduceCtorEq, false_or,
      false_and, and_assoc, exists_and_left, exists_eq_left, exists_false, or_false, true_and] at h
    exact ⟨hmissing, h⟩

/-- Lines that cannot be asked for are missing or cannot be counted. -/
theorem unasked_of_fails (calm : p.fault = none)
    (h : Fails (requestedLines user source) context p cause) :
    Unasked p.tables user source cause := by
  cases source with
  | items lines =>
    simp only [requestedLines, fails_bind, fails_ofExcept, not_fails_pure, and_false, exists_false,
      or_false] at h
    exact .uncountable (LineRequest.uncountable_of_aggregate h)
  | cart =>
    unfold requestedLines at h
    simp only [fails_bind, Cart.not_fails_fetch calm, fails_found, returns_found, fails_require,
      returns_require, fails_ofExcept, not_fails_pure, and_false, exists_false, or_false, false_or,
      and_assoc, exists_and_left, exists_eq_left] at h
    obtain ⟨found, middle, hfetch, ⟨rfl, rfl⟩ | ⟨filled, rfl, hfilled⟩⟩ := h
    · exact .noCart (find?_key_eq_none.mp (Cart.missing_of_returns_fetch calm hfetch))
    · obtain ⟨hfound, hitems, rfl⟩ := (Cart.returns_fetch calm).mp hfetch
      rcases hfilled with ⟨hempty, rfl⟩ | ⟨-, -, huncountable⟩
      · refine .emptyCart hfound fun item hitem hsame => ?_
        rw [Bool.not_eq_false', List.isEmpty_iff, hitems, sortBy_eq_nil] at hempty
        exact absurd (decide_eq_true hsame) (List.filter_eq_nil_iff.mp hempty item hitem)
      · refine .uncountable ?_
        rw [hitems] at huncountable
        rw [linesAsked, hfound]
        exact LineRequest.uncountable_of_aggregate huncountable

/-- A checkout that fails without a fault is turned down for a cause. -/
theorem turnedDown_of_fails {count : Nat}
    (h : Fails (checkOut user addressId method source) context p cause) (calm : p.fault = none)
    (fitting : p.tables.Fitting)
    (unique : (p.tables.products.map (·.id)).Nodup)
    (natural : ∀ price ∈ p.tables.productPrices, 0 ≤ price.amount)
    (room : p.store.HasRoom count)
    (few : ∀ cart requests, Requested p.tables user source cart requests →
      requests.length ≤ count) :
    TurnedDown p.tables user addressId source cause := by
  rw [checkOut_eq, fails_transaction, fails_bind] at h
  rcases h with hcopy | ⟨copy, copied, hcopy, h⟩
  · obtain ⟨hmissing, rfl⟩ := not_hasAddress_of_fails_copyAddress calm fitting room.copy hcopy
    exact .noAddress hmissing
  obtain ⟨address, hfound, -, -, rfl, rfl⟩ := (returns_copyAddress calm).mp hcopy
  have haddress : p.tables.HasAddress user addressId := by
    have hkeys := List.find?_some hfound
    rw [Bool.and_eq_true, decide_eq_true_eq, decide_eq_true_eq] at hkeys
    exact ⟨address, List.mem_of_find?_eq_some hfound, hkeys⟩
  rcases fails_bind.mp h with hfails | ⟨⟨cart, requests⟩, asked, hasked, hrest⟩
  · exact .unasked haddress ((unasked_of_fails (by exact calm) hfails).congr (by rfl) (by rfl))
  obtain ⟨hrequested, rfl⟩ := (returns_requestedLines (by exact calm)).mp hasked
  have hrequested : Requested p.tables user source cart requests :=
    hrequested.congr (by rfl) (by rfl)
  refine .unplaceable haddress hrequested ?_
  obtain ⟨hcounted, hsums⟩ := hrequested.sums
  rcases fails_bind.mp hrest with hwrite | ⟨order, written, hwrite, hclear⟩
  · have hunplaceable := unplaceable_of_fails_write hwrite calm
      ⟨_, List.mem_append_right _ (List.mem_singleton_self _), rfl⟩ unique natural
      ⟨fitting.product_names, fitting.price_types, fitting.destinations⟩ hsums.distinct
      (hsums.positive hcounted) room.order (room.items.mono (few cart requests hrequested))
    exact hunplaceable
  · -- Once the order is written, nothing is left that could fail.
    have hcalm : written.fault = none := hwrite.fault_eq_none (by exact calm)
    have hcleared : Succeeds (cart.forM Cart.clear >>= fun _ => pure order) context written :=
      Returns.bind (a := ⟨⟩) ((returns_clear hcalm).mpr rfl) (succeeds_pure order)
    exact absurd hclear hcleared.not_fails

/-- An order that is not placed is turned down; one that is committed is always read back. -/
theorem turnedDown_of_fails_place {count : Nat}
    (h : Fails (place user addressId method source) context p cause) (calm : p.fault = none)
    (references : ∀ item ∈ p.tables.orderItems, ∃ other ∈ p.tables.orders, other.id = item.orderId)
    (fitting : p.tables.Fitting) (unique : (p.tables.products.map (·.id)).Nodup)
    (natural : ∀ price ∈ p.tables.productPrices, 0 ≤ price.amount) (room : p.store.HasRoom count)
    (few : ∀ cart requests, Requested p.tables user source cart requests →
      requests.length ≤ count) :
    TurnedDown p.tables user addressId source cause := by
  have hfails := h
  rw [place, fails_bind] at hfails
  rcases hfails with hcheckout | ⟨order, after, hcommitted, -⟩
  · exact turnedDown_of_fails hcheckout calm fitting unique natural room few
  · obtain ⟨found, hfound⟩ :=
      (exists_returns_place calm references).mpr ⟨order, after, hcommitted, rfl⟩
    exact absurd h hfound.succeeds.not_fails

end Order

end Storefront
