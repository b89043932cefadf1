import Storefront.Proofs.Order.Admission
import Storefront.Proofs.Service.Effects

/-!
Checking out the cart and ordering its lines directly. Both ask for the same lines, and all that the
first does besides is to empty the cart.
-/

namespace Storefront

/-- The store without the lines of a cart. -/
def Store.withoutLines (cart : CartId) (store : Store) : Store :=
  { store with tables := { store.tables with
      cartItems := store.tables.cartItems.filter fun line => line.cartId ≠ cart } }

/-- The outcome, with the lines of a cart removed unless it is an error. -/
def Outcome.emptying (cart : CartId) (outcome : Outcome) : Outcome :=
  { outcome with store :=
      if outcome.answer.isError then outcome.store else outcome.store.withoutLines cart }

open Session

variable {context : Context} {p p' : Progress} {user : UserId} {addressId : AddressId}
  {method : PaymentMethod} {source : Order.Source} {cart : Option CartId}
  {lines requests : List LineRequest}

theorem Progress.store_emptied (cart : CartId) (p : Progress) :
    (p.emptied (some cart)).store = p.store.withoutLines cart := by
  simp [emptied, store, Store.withoutLines, Order.emptied]

namespace Order

/-- A checkout over the same lines, wherever they come from, places the same order. -/
theorem exec_place_of_requested (context : Context) (addressId : AddressId) (method : PaymentMethod)
    (calm : p.fault = none)
    (references : ∀ item ∈ p.tables.orderItems, ∃ other ∈ p.tables.orders, other.id = item.orderId)
    (asked : Requested p.tables user source cart requests)
    (listed : Requested p.tables user (.items lines) none requests) :
    (place user addressId method source).exec context p =
      match (place user addressId method (.items lines)).exec context p with
      | (.ok found, after) => (.ok found, after.emptied cart)
      | (.error cause, after) => (.error cause, after) := by
  have hasked := exec_checkOut context addressId method calm asked
  have hlisted := exec_checkOut context addressId method calm listed
  rcases hwritten : (transaction do
      let copy ← copyAddress user addressId
      write user copy.id method requests).exec context p with ⟨cause | order, after⟩
  · rw [hwritten] at hasked hlisted
    rw [place, place, exec_bind, exec_bind, hasked, hlisted]
  · rw [hwritten] at hasked hlisted
    have hdirect : Returns (checkOut user addressId method (.items lines)) context p order after :=
      hlisted
    have calm' : after.fault = none := hdirect.fault_eq_none calm
    obtain ⟨_, _, _, _, hplaced⟩ := placed_of_returns calm hdirect
    obtain ⟨found, hfound⟩ : ∃ found, Returns (details order.id) context
        { after with events := after.events ++ [.orderPlaced order] } found
        { after with events := after.events ++ [.orderPlaced order] } :=
      details_of_placed hplaced references calm'
    obtain ⟨hid, hstored, -⟩ := (returns_details (by exact calm')).mp hfound
    have hread : Returns (details order.id) context
        { after.emptied cart with events := after.events ++ [.orderPlaced order] } found
        { after.emptied cart with events := after.events ++ [.orderPlaced order] } :=
      (returns_details (by exact calm')).mpr ⟨hid, hstored.congr rfl rfl rfl, rfl⟩
    rw [Returns] at hfound hread
    rw [exec_place hasked, exec_place hdirect, hfound]
    exact hread

end Order

/-- What a call comes to, by the session that it runs. -/
theorem Step.run_call_of_exec {currency : String} {clock : Clock} {fault : Option Fault}
    {operation : Operation} {store : Store} {outcome : Except Error Reply} {after : Progress}
    (h : operation.perform.exec ⟨clock, currency⟩
      ⟨store.tables, store.sequences, fault, [], false⟩ = (outcome, after)) :
    (Step.mk clock fault (.call operation)).run currency store =
      ⟨.reply outcome, after.events, after.store, after.overflowed⟩ := by
  simp only [run, runOn, h]

/-- A direct order leaves all carts alone. -/
theorem Operation.Effect.carts_eq {fault : Option Fault} {store : Store} {events : List Event}
    {t' : Tables}
    (h : (Operation.placeDirect user addressId method lines).Effect context fault store events t') :
    t'.carts = store.tables.carts ∧ t'.cartItems = store.tables.cartItems := by
  cases h with
  | placed asked hasLines placed =>
    obtain ⟨rfl, rfl, rfl, rfl⟩ : _ ∧ _ ∧ _ ∧ _ := by
      simpa [checkout?] using asked
    obtain ⟨products, -, rfl⟩ := placed.changed
    cases placed.requested
    exact ⟨rfl, rfl⟩

/-- The lines of a cart ask for different products. -/
theorem Tables.Constrained.separate {t : Tables} (h : t.Constrained)
    (quantities : ∀ line ∈ t.cartItems, Text.fitsSigned 32 line.quantity) (cart : CartId) :
    LineRequest.Separate
      ((t.cartItems.filter fun line => line.cartId = cart).map CartItem.request) := by
  constructor
  · rw [List.map_map]
    refine List.Nodup.map_on ?_ (h.cartItems_key.of_map.filter _)
    intro line hline other hother hproduct
    rw [List.mem_filter, decide_eq_true_eq] at hline hother
    exact eq_of_key_eq h.cartItems_key hline.1 hother.1
      (Prod.ext (hline.2.trans hother.2.symm) hproduct)
  · intro request hrequest
    obtain ⟨line, hline, rfl⟩ := List.mem_map.mp hrequest
    exact h.line_positive line (List.mem_of_mem_filter hline)
  · intro request hrequest
    obtain ⟨line, hline, rfl⟩ := List.mem_map.mp hrequest
    have hfits := quantities line (List.mem_of_mem_filter hline)
    simp only [Text.fitsSigned, decide_eq_true_eq] at hfits
    exact Int.le_of_lt_add_one hfits.2

/-- Checking out a cart and ordering its lines directly ask for the same. -/
theorem Tables.Constrained.exists_requested {t : Tables} {cart : Cart} {requests : List LineRequest}
    (h : t.Constrained) (quantities : ∀ line ∈ t.cartItems, Text.fitsSigned 32 line.quantity)
    (owned : cart ∈ t.carts) (filled : requests ≠ [])
    (listed : requests.Perm
      ((t.cartItems.filter fun line => line.cartId = cart.id).map CartItem.request)) :
    ∃ summed, Order.Requested t cart.userId .cart (some cart.id) summed ∧
      Order.Requested t cart.userId (.items requests) none summed := by
  have hseparate := h.separate quantities cart.id
  obtain ⟨summed, hsummed, -⟩ := LineRequest.exists_aggregate hseparate
  refine ⟨summed, .cart ((find?_key_iff h.one_cart_per_user).mpr ⟨owned, rfl⟩) ?_ ?_, .items ?_⟩
  · intro hnone
    rw [hnone] at listed
    exact filled listed.eq_nil
  · rw [← hsummed]
    exact LineRequest.aggregate_eq_of_perm (hseparate.perm ((sortBy_perm _ _).map _).symm)
      ((sortBy_perm _ _).map _)
  · rw [← hsummed]
    exact (LineRequest.aggregate_eq_of_perm hseparate listed.symm).symm

/-- A call that checks out a cart does what the call for its lines does, and empties the cart. -/
theorem Step.run_placeFromCart (currency : String) (clock : Clock) {store : Store} {cart : CartId}
    {summed : List LineRequest} (address : AddressId) (method : PaymentMethod)
    (references : ∀ item ∈ store.tables.orderItems, ∃ other ∈ store.tables.orders,
      other.id = item.orderId) (filled : requests ≠ [])
    (asked : Order.Requested store.tables user .cart (some cart) summed)
    (listed : Order.Requested store.tables user (.items requests) none summed) :
    (Step.mk clock none (.call (.placeFromCart user address method))).run currency store =
      ((Step.mk clock none (.call (.placeDirect user address method requests))).run currency
        store).emptying cart := by
  let start : Progress := ⟨store.tables, store.sequences, none, [], false⟩
  have hplaced := Order.exec_place_of_requested ⟨clock, currency⟩ (p := start) address method rfl
    references asked listed
  have hlines : (Operation.placeDirect user address method requests).hasLines = true := by
    simp only [Operation.hasLines, Bool.not_eq_true', List.isEmpty_eq_false_iff]
    exact filled
  have hfromCart := Operation.exec_checkout
    (show (Operation.placeFromCart user address method).checkout? = _ from rfl)
    ⟨clock, currency⟩ start
  have hdirect := Operation.exec_checkout
    (show (Operation.placeDirect user address method requests).checkout? = _ from rfl)
    ⟨clock, currency⟩ start
  rw [if_pos (by rfl), exec_map, hplaced] at hfromCart
  rw [if_pos hlines, exec_map] at hdirect
  rcases hout : (Order.place user address method (.items requests)).exec ⟨clock, currency⟩
    start with ⟨cause | found, after⟩
  · rw [hout] at hfromCart hdirect
    rw [Step.run_call_of_exec hfromCart, Step.run_call_of_exec hdirect]
    rfl
  · rw [hout] at hfromCart hdirect
    rw [Step.run_call_of_exec hfromCart, Step.run_call_of_exec hdirect, Progress.store_emptied]
    rfl

/-- Checking out a cart answers what ordering its lines directly answers, in whatever order they are
listed, with the same events, and leaves the same store behind, identifiers included, but that the
cart has lost its lines if the order was placed. The direct order leaves all carts alone. -/
theorem placeFromCart_eq_placeDirect (currency : String) (clock : Clock) {store : Store}
    {cart : Cart} {requests : List LineRequest} (address : AddressId) (method : PaymentMethod)
    (constrained : store.tables.Constrained)
    (quantities : ∀ line ∈ store.tables.cartItems, Text.fitsSigned 32 line.quantity)
    (owned : cart ∈ store.tables.carts) (filled : requests ≠ [])
    (listed : requests.Perm
      ((store.tables.cartItems.filter fun line => line.cartId = cart.id).map CartItem.request)) :
    let fromCart := (Step.mk clock none
      (.call (.placeFromCart cart.userId address method))).run currency store
    let direct := (Step.mk clock none
      (.call (.placeDirect cart.userId address method requests))).run currency store
    fromCart = direct.emptying cart.id ∧
      direct.store.tables.carts = store.tables.carts ∧
      direct.store.tables.cartItems = store.tables.cartItems := by
  constructor
  · obtain ⟨summed, hcart, hitems⟩ := constrained.exists_requested quantities owned filled listed
    exact Step.run_placeFromCart currency clock address method constrained.item_order filled hcart
      hitems
  · have hserved : (Step.mk clock none
        (.call (.placeDirect cart.userId address method requests))).IsServed :=
      Step.isServed_of_operation rfl
    rcases Step.run_effect currency store hserved with ⟨hsame, -⟩ | ⟨operation, hop, heffect⟩
    · rw [hsame]
      exact ⟨rfl, rfl⟩
    · obtain rfl := Option.some.inj hop
      exact heffect.carts_eq

/-- A store in which user 7 has put products into a cart. -/
def Store.withCart : Store :=
  { Store.stocked with tables := { Store.stocked.tables with
      carts := [⟨2, 7, ⟨0, 0⟩, ⟨0, 0⟩⟩]
      cartItems := [⟨2, 3, 2, ⟨0, 0⟩, ⟨0, 0⟩⟩, ⟨2, 4, 1, ⟨0, 0⟩, ⟨0, 0⟩⟩] } }

theorem placeFromCart_withCart :
    let fromCart := (Step.ofCall (.placeFromCart 7 6 .cod)).run "INR" .withCart
    let direct := (Step.ofCall (.placeDirect 7 6 .cod [⟨4, 1⟩, ⟨3, 2⟩])).run "INR" .withCart
    direct.answer.isError = false ∧ direct.store.tables.orders.length = 1 ∧
      fromCart.store.tables.cartItems = [] ∧ fromCart = direct.emptying 2 := by
  have hconstrained : Store.withCart.tables.Constrained := by
    constructor <;> simp +decide
  have howned : (⟨2, 7, ⟨0, 0⟩, ⟨0, 0⟩⟩ : Cart) ∈ Store.withCart.tables.carts := by decide
  have hlisted : [⟨4, 1⟩, ⟨3, 2⟩].Perm ((Store.withCart.tables.cartItems.filter fun line =>
      line.cartId = 2).map CartItem.request) := by decide +kernel
  obtain ⟨hsame, -⟩ := placeFromCart_eq_placeDirect "INR" ⟨⟨0, 0⟩, ⟨0, 0⟩⟩ 6 .cod hconstrained
    (by decide +kernel) howned (by decide) hlisted
  exact ⟨by decide +kernel, by decide +kernel, by decide +kernel, hsame⟩

end Storefront
