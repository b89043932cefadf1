import Mathlib.Data.List.Dedup
import Storefront.Proofs.Catalog.Conservation
import Storefront.Proofs.Order.Refusals

/-!
Checkouts of a list of items, as their customers see them. An order is placed if and only if the
address is there, the quantities can be counted, every product can be ordered and all of it does not
come to too much; what is written then is told by the list, and otherwise the first thing that is
wrong is answered.
-/

namespace Storefront

open Session

/-- All that it takes to place an order over a list of items. -/
structure Tables.Orderable (t : Tables) (user : UserId) (addressId : AddressId)
    (items : List LineRequest) : Prop where
  nonempty : items ≠ []
  address : t.HasAddress user addressId
  counted : LineRequest.Countable items
  available : ∀ item ∈ items, Order.Available t.productPrices t.products item.productId
    (LineRequest.unitsOf item.productId items)
  small : LineRequest.worth (Order.unitPrice t.productPrices) items < tenTo 12

/-- The first thing that is wrong with an order over a list of items. Products are looked at in
ascending order, each with all units that are asked of it. -/
inductive Tables.Refuses (t : Tables) (user : UserId) (addressId : AddressId)
    (items : List LineRequest) : Error → Prop
  | noItems (none : items = []) :
      t.Refuses user addressId items (.invalidInput "Order has no items")
  | noAddress (nonempty : items ≠ []) (missing : ¬ t.HasAddress user addressId) :
      t.Refuses user addressId items .addressNotFound
  | uncountable {cause : Error} (nonempty : items ≠ []) (address : t.HasAddress user addressId)
      (uncountable : LineRequest.Uncountable items cause) : t.Refuses user addressId items cause
  | lacking {id : ProductId} {cause : Error} (nonempty : items ≠ [])
      (address : t.HasAddress user addressId) (counted : LineRequest.Countable items)
      (listed : id ∈ items.map (·.productId))
      (first : ∀ item ∈ items, item.productId < id → Order.Available t.productPrices t.products
        item.productId (LineRequest.unitsOf item.productId items))
      (lacks : Order.Lacks t.productPrices t.products id (LineRequest.unitsOf id items) cause) :
      t.Refuses user addressId items cause
  | overpriced (nonempty : items ≠ []) (address : t.HasAddress user addressId)
      (counted : LineRequest.Countable items)
      (available : ∀ item ∈ items, Order.Available t.productPrices t.products item.productId
        (LineRequest.unitsOf item.productId items))
      (large : tenTo 12 ≤ LineRequest.worth (Order.unitPrice t.productPrices) items) :
      t.Refuses user addressId items .internal

/-- The lines of an order over a list of items: one for each product, which ascend, with all units
that are asked for, at the price that the product is sold at and with the discount that is open. -/
structure Tables.LinesOf (t : Tables) (now : Instant) (items : List LineRequest)
    (lines : List PricedLine) : Prop where
  ascending : lines.Pairwise fun line later => line.productId < later.productId
  products : ∀ id, id ∈ lines.map (·.productId) ↔ id ∈ items.map (·.productId)
  priced : ∀ line ∈ lines, ∃ product ∈ t.products, ∃ price : Price,
    price.Sells t.productPrices product.id ∧
      line = product.lineAt price (LineRequest.unitsOf product.id items) now

variable {t : Tables} {user : UserId} {addressId : AddressId} {method : PaymentMethod}
  {items summed : List LineRequest} {cause : Error}

theorem Tables.Refuses.not_orderable (unique : (t.products.map (·.id)).Nodup)
    (h : t.Refuses user addressId items cause) : ¬ t.Orderable user addressId items := by
  intro horderable
  cases h with
  | noItems none => exact horderable.nonempty none
  | noAddress nonempty missing => exact missing horderable.address
  | uncountable nonempty address uncountable => exact horderable.counted.not_uncountable uncountable
  | lacking nonempty address counted listed first lacks =>
    obtain ⟨item, hitem, rfl⟩ := List.mem_map.mp listed
    exact (horderable.available item hitem).not_lacks unique lacks
  | overpriced nonempty address counted available large =>
    exact absurd horderable.small (Int.not_lt.mpr large)

namespace LineRequest.SumsTo

/-- The sums have a line for each product that is listed. -/
theorem line_mem (h : SumsTo items summed) {item : LineRequest} (hitem : item ∈ items) :
    ⟨item.productId, unitsOf item.productId items⟩ ∈ summed :=
  h.mem_iff.mpr ⟨List.mem_map.mpr ⟨item, hitem, rfl⟩, rfl⟩

/-- What can be ordered of the sums can be ordered of the list. -/
theorem available (h : SumsTo items summed)
    (hall : ∀ line ∈ summed,
      Order.Available t.productPrices t.products line.productId line.quantity) :
    ∀ item ∈ items, Order.Available t.productPrices t.products item.productId
      (unitsOf item.productId items) :=
  fun _ hitem => hall _ (h.line_mem hitem)

/-- As many products are summed as are listed. -/
theorem length_eq (h : SumsTo items summed) :
    summed.length = (items.map (·.productId)).dedup.length := by
  have hperm : (summed.map (·.productId)).Perm (items.map (·.productId)).dedup := by
    refine (List.perm_ext_iff_of_nodup h.distinct (List.nodup_dedup _)).mpr fun id => ?_
    rw [h.products, List.mem_dedup]
  rw [← hperm.length_eq, List.length_map]

theorem taken_eq (h : SumsTo items summed) (now : Instant) :
    Product.taken summed now = Product.taken items now := by
  funext row
  simp only [Product.taken, h.products, h.units_eq]

end LineRequest.SumsTo

/-- Lines that no order can be placed over make the list one that is refused. -/
theorem Order.Unplaceable.refuses (nonempty : items ≠ []) (address : t.HasAddress user addressId)
    (counted : LineRequest.Countable items) (sums : LineRequest.SumsTo items summed)
    (h : Unplaceable t.productPrices t.products summed cause) :
    t.Refuses user addressId items cause := by
  cases h with
  | @lacking before after request cause split available lacks =>
    have hmem : request ∈ summed := split ▸ List.mem_append_right _ List.mem_cons_self
    obtain ⟨hlisted, hunits⟩ := sums.mem_iff.mp hmem
    rw [hunits] at lacks
    refine .lacking nonempty address counted hlisted (fun item hitem hlt => ?_) lacks
    -- A product that comes before the one that is lacking stands before it in the sums.
    have hbefore : ⟨item.productId, LineRequest.unitsOf item.productId items⟩ ∈ before := by
      have hline := sums.line_mem hitem
      have hascends := sums.ascends
      rw [split] at hline hascends
      obtain ⟨-, hrest, -⟩ := List.pairwise_append.mp hascends
      rcases List.mem_append.mp hline with hbefore | hafter
      · exact hbefore
      · rcases List.mem_cons.mp hafter with heq | hafter
        · rw [← heq] at hlt
          exact absurd hlt (Int.lt_irrefl _)
        · have hgt := (List.pairwise_cons.mp hrest).1 _ hafter
          exact absurd hlt (Int.lt_asymm hgt)
    exact available _ hbefore
  | overpriced available large =>
    rw [sums.worth_eq] at large
    exact .overpriced nonempty address counted (sums.available available) large

theorem Order.TurnedDown.refuses (nonempty : items ≠ [])
    (h : TurnedDown t user addressId (.items items) cause) :
    t.Refuses user addressId items cause := by
  cases h with
  | noAddress missing => exact .noAddress nonempty missing
  | unasked address unasked =>
    cases unasked with
    | uncountable uncountable => exact .uncountable nonempty address uncountable
  | unplaceable address asked unplaceable =>
    obtain ⟨hcounted, hsums⟩ := asked.sums
    exact unplaceable.refuses nonempty address hcounted hsums

/-- What an order that is placed over a list of items is placed over. -/
theorem Order.Admitted.orderable {clock : Clock} {address : Address} {cart : Option CartId}
    {lines : List PricedLine} {products : List Product} (unique : (t.products.map (·.id)).Nodup)
    (nonempty : items ≠ [])
    (h : Admitted clock user addressId (.items items) t address cart summed lines products) :
    t.Orderable user addressId items ∧ t.LinesOf clock.wall items lines ∧ cart = none ∧
      products = t.products.map (Product.taken items clock.store) := by
  obtain ⟨hcounted, hsums⟩ : LineRequest.Countable items ∧ LineRequest.SumsTo items summed :=
    h.requested.sums
  have hreserved := h.reserved
  have hids := hreserved.productIds_eq
  have hcart : cart = none := by
    cases h.requested
    rfl
  have hkeys := List.find?_some h.address_found
  rw [Bool.and_eq_true, decide_eq_true_eq, decide_eq_true_eq] at hkeys
  refine ⟨⟨nonempty, ⟨address, List.mem_of_find?_eq_some h.address_found, hkeys⟩, hcounted, ?_, ?_⟩,
    ⟨?_, ?_, ?_⟩, hcart, ?_⟩
  · exact hsums.available (hreserved.available unique hsums.distinct)
  · rw [← hsums.worth_eq]
    exact hreserved.small_of_storable unique hsums.distinct h.totals_storable
  · have hascends : (summed.map (·.productId)).Pairwise (· < ·) :=
      List.pairwise_map.mpr hsums.ascends
    rw [← hids] at hascends
    exact List.pairwise_map.mp hascends
  · intro id
    rw [hids]
    exact hsums.products id
  · intro line hline
    obtain ⟨request, hrequest, product, hproduct, hid, price, hprice, heq⟩ :=
      hreserved.exists_lineAt unique hsums.distinct line hline
    rw [(hsums.mem_iff.mp hrequest).2, ← hid] at heq
    rw [← hid] at hprice
    exact ⟨product, hproduct, price, sells_of_priceIn hprice, heq⟩
  · rw [hreserved.after_eq unique, hsums.taken_eq]

namespace Step

variable {currency : String} {step : Step} {store : Store} {lines : List PricedLine}

/-- A checkout of a list of items that fails is refused for the first thing that is wrong. -/
theorem refuses_of_fails (constrained : store.tables.Constrained)
    (fitting : store.tables.Fitting) (room : store.HasRoom (items.map (·.productId)).dedup.length)
    (calm : step.fault = none)
    (h : Fails (Order.placeDirect user addressId method items) (step.context currency)
      (step.start store) cause) : store.tables.Refuses user addressId items cause := by
  rw [Order.placeDirect, fails_bind, fails_require] at h
  rcases h with ⟨hempty, rfl⟩ | ⟨u, middle, hfilled, h⟩
  · refine .noItems ?_
    rwa [Bool.not_eq_false', List.isEmpty_iff] at hempty
  · obtain ⟨hitems, rfl⟩ := returns_require.mp hfilled
    rw [Bool.not_eq_true', List.isEmpty_eq_false_iff] at hitems
    have hturned : Order.TurnedDown store.tables user addressId (.items items) cause := by
      refine Order.turnedDown_of_fails_place h calm constrained.item_order fitting
        constrained.products_key constrained.price_natural room fun cart requests hasked => ?_
      obtain ⟨-, hsums⟩ := hasked.sums
      exact Nat.le_of_eq hsums.length_eq
    exact hturned.refuses hitems

/-- What comes of a checkout of a list of items that is committed. -/
theorem run_of_placeDirect (constrained : store.tables.Constrained) (calm : step.fault = none)
    (asked : step.operation? = some (.placeDirect user addressId method items))
    (h : Succeeds (Order.placeDirect user addressId method items) (step.context currency)
      (step.start store)) :
    items ≠ [] ∧ ∃ address cart summed lines products,
      Order.Admitted step.clock user addressId (.items items) store.tables address cart summed lines
          products ∧
        (step.run currency store).answer.isError = false ∧
        (step.run currency store).store =
          store.withOrder step.clock user method address cart lines products ∧
        (step.run currency store).events =
          [.orderPlaced (store.nextOrder step.clock user method lines)] := by
  obtain ⟨found, last, h⟩ := h
  obtain ⟨u, middle, hfilled, hplaced⟩ := returns_bind.mp h
  obtain ⟨hitems, rfl⟩ := returns_require.mp hfilled
  have hlines : (Operation.placeDirect user addressId method items).hasLines := hitems
  obtain ⟨order, after, hcommitted, -⟩ :=
    (Order.exists_returns_place calm constrained.item_order).mp ⟨found, hplaced⟩
  obtain ⟨address, cart, summed, lines, products, hadmitted, hroom, horder, -⟩ :=
    (Order.returns_checkOut calm).mp hcommitted
  obtain ⟨-, hevents, -⟩ := run_of_committed asked rfl hlines hcommitted
  obtain ⟨hanswer, hstore⟩ : (step.run currency store).answer.isError = false ∧
      (step.run currency store).store =
        store.withOrder step.clock user method address cart lines products :=
    (checkout_succeeds_iff calm constrained.item_order asked rfl).mpr
      ⟨hlines, address, cart, summed, lines, products, hadmitted, hroom, rfl⟩
  rw [Bool.not_eq_true', List.isEmpty_eq_false_iff] at hitems
  refine ⟨hitems, address, cart, summed, lines, products, hadmitted, hanswer, hstore, ?_⟩
  rw [hevents, horder]
  rfl

end Step

/-- Without a fault, a checkout of a list of items succeeds if and only if the list has items, the
address exists and is the user's, quantities are positive and add up to no more than can be ordered,
every product exists, is active, has the units in stock and has a price, and all of it comes to less
than an order can hold. If it succeeds one order is added, with an item for each product in
ascending order and a copy of the address, and the units are taken from stock; nothing else changes.
If it fails the first thing that is wrong is answered, and nothing changes. -/
theorem placeDirect_exact (currency : String) {step : Step} {store : Store} {user : UserId}
    {addressId : AddressId} {method : PaymentMethod} {items : List LineRequest}
    (constrained : store.tables.Constrained) (fitting : store.tables.Fitting)
    (room : store.HasRoom (items.map (·.productId)).dedup.length) (calm : step.fault = none)
    (asked : step.operation? = some (.placeDirect user addressId method items)) :
    ((step.run currency store).answer.isError = false ↔
        store.tables.Orderable user addressId items) ∧
      (store.tables.Orderable user addressId items →
        ∃ address ∈ store.tables.addresses, address.id = addressId ∧ address.userId = user ∧
          ∃ lines, store.tables.LinesOf step.clock.wall items lines ∧
            (step.run currency store).store = store.withOrder step.clock user method address none
              lines (store.tables.products.map (Product.taken items step.clock.store)) ∧
            (step.run currency store).events =
              [.orderPlaced (store.nextOrder step.clock user method lines)]) ∧
      (¬ store.tables.Orderable user addressId items →
        ∃ cause, store.tables.Refuses user addressId items cause ∧
          (step.run currency store).answer =
            step.answerOf (.placeDirect user addressId method items) (.error cause) ∧
          (step.run currency store).store.tables = store.tables ∧
          (step.run currency store).events = []) := by
  have unique := constrained.products_key
  rcases succeeds_or_fails (Order.placeDirect user addressId method items) (step.context currency)
      (step.start store) with hdone | ⟨cause, hfails⟩
  · obtain ⟨hitems, address, cart, summed, lines, products, hadmitted, hanswer, hstore, hevents⟩ :=
      Step.run_of_placeDirect constrained calm asked hdone
    obtain ⟨horderable, hlines, rfl, rfl⟩ := hadmitted.orderable unique hitems
    have hkeys := List.find?_some hadmitted.address_found
    rw [Bool.and_eq_true, decide_eq_true_eq, decide_eq_true_eq] at hkeys
    refine ⟨iff_of_true hanswer horderable, fun _ => ?_, fun hnot => absurd horderable hnot⟩
    exact ⟨address, List.mem_of_find?_eq_some hadmitted.address_found, hkeys.1, hkeys.2, lines,
      hlines, hstore, hevents⟩
  · have hrefuses := Step.refuses_of_fails constrained fitting room calm hfails
    have hnot := hrefuses.not_orderable unique
    have hfailed : (Operation.placeDirect user addressId method items).perform.Fails
        (step.context currency) (step.start store) cause := fails_map.mpr hfails
    obtain ⟨-, -, -, herror⟩ := Step.run_of_operation currency store asked
    have hanswer : (step.run currency store).answer.isError := herror.mpr ⟨cause, hfailed⟩
    refine ⟨iff_of_false (by simp [hanswer]) hnot, fun h => absurd h hnot, fun _ => ?_⟩
    obtain ⟨htables, hevents⟩ : (step.run currency store).store.tables = store.tables ∧
        (step.run currency store).events = [] := by
      rcases Step.checkout_failed asked rfl hanswer with hnothing | ⟨order, after, hreload⟩
      · exact hnothing
      · have hcalm : step.calm = step := by rw [Step.calm, ← calm]
        have hdone := hreload.calm_succeeds constrained
        rw [hcalm, hanswer] at hdone
        cases hdone
    refine ⟨cause, hrefuses, ?_, htables, hevents⟩
    rw [Step.answer_of_operation currency store asked, hfailed]

theorem Store.fitting_stocked : Store.stocked.tables.Fitting := by
  constructor <;> decide

/-- User 7 asks for lamps twice, with mugs in between. -/
def Step.mixedItems : Step := .ofCall (.placeDirect 7 6 .cod [⟨4, 1⟩, ⟨3, 2⟩, ⟨4, 1⟩])

theorem placeDirect_mixedItems :
    (Step.mixedItems.run "INR" .stocked).store.tables.products.map (·.stock) = [3, 0] ∧
      Store.stocked.tables.Orderable 7 6 [⟨4, 1⟩, ⟨3, 2⟩, ⟨4, 1⟩] ∧
      ∃ lines, Store.stocked.tables.LinesOf ⟨0, 0⟩ [⟨4, 1⟩, ⟨3, 2⟩, ⟨4, 1⟩] lines ∧
        (Step.mixedItems.run "INR" .stocked).store.tables.orderItems =
          (Store.stocked.nextItems ⟨⟨0, 0⟩, ⟨0, 0⟩⟩ lines).map OrderItem.row := by
  have hroom : Store.stocked.HasRoom
      (([⟨4, 1⟩, ⟨3, 2⟩, ⟨4, 1⟩] : List LineRequest).map (·.productId)).dedup.length := by
    have hfree {next : Int} {count : Nat} (hfits : ∀ n < count, Text.fitsSigned 32 (next + n)) :
        FreeIn [] next count := by
      intro id hle hlt
      obtain ⟨n, rfl⟩ := Int.le.dest hle
      exact ⟨hfits n (by omega), List.not_mem_nil⟩
    exact ⟨hfree (by decide), hfree (by decide), hfree (by decide)⟩
  have hcalm : Step.mixedItems.fault = none := rfl
  obtain ⟨hiff, hplaced, -⟩ := placeDirect_exact "INR" Store.constrained_stocked
    Store.fitting_stocked hroom hcalm rfl
  have horderable := hiff.mp (by decide +kernel)
  obtain ⟨address, -, -, -, lines, hlines, hstore, -⟩ := hplaced horderable
  refine ⟨by decide +kernel, horderable, lines, hlines, ?_⟩
  rw [hstore]
  rfl

end Storefront
