import Storefront.Proofs.Cart.Upserts
import Storefront.Proofs.Order.Admission
import Storefront.Proofs.Service.Atomicity

/-!
Replacing a cart. A cart is replaced if and only if what is asked for keeps to the limits of a cart
and is for sale. The user then has one cart, of which the lines are those asked for; what was in it
before makes no difference, and doing it once more changes only when the lines and the cart were
last changed.
-/

namespace Storefront

open Session

/-- What can be put into a cart: up to twenty products, one to ten units of each, all for sale. -/
structure Cart.Acceptable (t : Tables) (requests : List LineRequest) : Prop where
  few : requests.length ≤ 20
  limited : ∀ request ∈ requests, 1 ≤ request.quantity ∧ request.quantity ≤ 10
  distinct : (requests.map (·.productId)).Nodup
  for_sale : ∀ request ∈ requests,
    ∃ product ∈ t.products, product.id = request.productId ∧ product.isActive

/-- The user has a cart, or can get one because the next identifier of carts is free. -/
def Store.CanHold (store : Store) (user : UserId) : Prop :=
  (∃ cart ∈ store.tables.carts, cart.userId = user) ∨
    FreeIn (store.tables.carts.map (·.id)) store.sequences.cart 1

/-- The cart that a user has or gets. -/
def Store.cartOf (store : Store) (clock : Clock) (user : UserId) : Cart :=
  (store.tables.carts.find? fun cart => cart.userId = user).getD
    ⟨store.sequences.cart, user, clock.store, clock.store⟩

/-- The store once the user has a cart. -/
def Store.holding (store : Store) (clock : Clock) (user : UserId) : Store :=
  if store.tables.carts.any fun cart => cart.userId = user then store
  else
    { tables := { store.tables with
        carts := store.tables.carts ++ [store.cartOf clock user] }
      sequences := { store.sequences with cart := store.sequences.cart + 1 } }

/-- The cart as it is marked when it is changed. -/
def Cart.touched (now : Instant) (cart : Cart) : Cart :=
  { cart with updatedAt := now }

/-- The store once the user's cart is replaced. -/
def Store.refilled (store : Store) (clock : Clock) (user : UserId) (requests : List LineRequest) :
    Store :=
  let cart := store.cartOf clock user
  let held := store.holding clock user
  { held with tables := { held.tables with
      carts := updateWhere (fun row => row.id = cart.id) (Cart.touched clock.store)
        held.tables.carts
      cartItems := CartItem.replaced cart.id clock.store requests store.tables.cartItems } }

/-- The lines of the user's cart once it is replaced, by product. -/
def Store.refilledItems (store : Store) (clock : Clock) (user : UserId)
    (requests : List LineRequest) : List CartItem :=
  sortBy (fun a b => a.productId ≤ b.productId)
    ((CartItem.replaced (store.cartOf clock user).id clock.store requests
      store.tables.cartItems).filter fun line => line.cartId = (store.cartOf clock user).id)

namespace Cart

theorem Acceptable.congr {t t' : Tables} {requests : List LineRequest}
    (h : Acceptable t requests) (products : t'.products = t.products) : Acceptable t' requests := by
  refine ⟨h.few, h.limited, h.distinct, ?_⟩
  rw [products]
  exact h.for_sale

theorem Untouched.symm {t t' : Tables} (h : Untouched t t') : Untouched t' t := by
  unfold Untouched at *
  rw [h]

variable {context : Context} {p p' : Progress} {user : UserId} {id : CartId}
  {requests : List LineRequest}

theorem checkLines_eq_ok {earlier : List ProductId} :
    checkLines earlier requests = .ok () ↔
      (∀ request ∈ requests, 1 ≤ request.quantity ∧ request.quantity ≤ 10) ∧
        (requests.map (·.productId)).Nodup ∧ ∀ request ∈ requests, request.productId ∉ earlier := by
  induction requests generalizing earlier with
  | nil => simp [checkLines]
  | cons request rest ih =>
    rw [checkLines, List.forall_mem_cons, List.map_cons, List.nodup_cons, List.forall_mem_cons]
    split
    next h =>
      simp only [reduceCtorEq, false_iff]
      rintro ⟨⟨hfirst, -⟩, -⟩
      simp only [maxQuantity] at h
      omega
    next h =>
      simp only [maxQuantity] at h
      split
      next hseen =>
        simp only [reduceCtorEq, false_iff]
        exact fun ⟨_, _, hnew, _⟩ => hnew hseen
      next hnew =>
        simp only [ih, List.mem_cons, not_or, List.mem_map, not_exists, not_and]
        constructor
        · rintro ⟨hlimited, hdistinct, happart⟩
          exact ⟨⟨by omega, hlimited⟩, ⟨fun other hother => (happart other hother).1, hdistinct⟩,
            hnew, fun other hother => (happart other hother).2⟩
        · rintro ⟨⟨-, hlimited⟩, ⟨happart, hdistinct⟩, -, hnews⟩
          exact ⟨hlimited, hdistinct, fun other hother =>
            ⟨happart other hother, hnews other hother⟩⟩

theorem checkRequests_eq_ok : checkRequests requests = .ok () ↔
    requests.length ≤ 20 ∧
      (∀ request ∈ requests, 1 ≤ request.quantity ∧ request.quantity ≤ 10) ∧
        (requests.map (·.productId)).Nodup := by
  rw [checkRequests]
  split
  next h => simpa [maxProducts] using fun hfew => absurd hfew (by simpa [maxProducts] using h)
  next h =>
    rw [checkLines_eq_ok]
    simp only [maxProducts, not_lt] at h
    simp [h]

theorem returns_requireForSale {id : ProductId} {u : PUnit} (calm : p.fault = none) :
    Returns (requireForSale id) context p u p' ↔
      (∃ product, p.tables.products.find? (fun row => row.id = id) = some product ∧
        product.isActive) ∧ p' = p := by
  constructor
  · intro h
    obtain ⟨found, middle, hfind, hrest⟩ := returns_bind.mp h
    obtain ⟨hfind, rfl⟩ := (Product.returns_find calm).mp hfind
    obtain ⟨product, last, hfound, hrequired⟩ := returns_bind.mp hrest
    obtain ⟨rfl, rfl⟩ := returns_found.mp hfound
    obtain ⟨hactive, rfl⟩ := returns_require.mp hrequired
    exact ⟨⟨product, hfind.symm, hactive⟩, rfl⟩
  · rintro ⟨⟨product, hfind, hactive⟩, rfl⟩
    exact returns_bind.mpr ⟨some product, p', (Product.returns_find calm).mpr ⟨hfind.symm, rfl⟩,
      returns_bind.mpr ⟨product, p', returns_found.mpr ⟨rfl, rfl⟩,
        returns_require.mpr ⟨hactive, rfl⟩⟩⟩

theorem any_owned_iff {carts : List Cart} :
    (carts.any fun cart => cart.userId = user) ↔ ∃ cart ∈ carts, cart.userId = user := by
  simp

theorem findOrCreate_iff {cart : Cart} (calm : p.fault = none) :
    Returns (findOrCreate user) context p cart p' ↔
      p.store.CanHold user ∧ cart = p.store.cartOf context.clock user ∧
        p' = p.at (p.store.holding context.clock user) := by
  have hlook : Returns (findFor user) context p
      (p.tables.carts.find? fun cart => cart.userId = user) p :=
    (returns_findFor calm).mpr ⟨rfl, rfl⟩
  cases hfind : p.tables.carts.find? fun cart => cart.userId = user with
  | some held =>
    rw [hfind] at hlook
    have howned : ∃ cart ∈ p.tables.carts, cart.userId = user :=
      ⟨held, mem_of_find?_key hfind⟩
    have hcart : p.store.cartOf context.clock user = held := by
      rw [Store.cartOf, Progress.store, hfind]
      rfl
    have hstore : p.store.holding context.clock user = p.store :=
      if_pos (any_owned_iff.mpr howned)
    have hfound : Returns (findOrCreate user) context p cart p' ↔ cart = held ∧ p' = p :=
      hlook.bind_iff.trans returns_pure
    have hroom : p.store.CanHold user := .inl howned
    rw [hfound, hcart, hstore, and_iff_right hroom]
    rfl
  | none =>
    rw [hfind] at hlook
    have hnone : ∀ row ∈ p.tables.carts, row.userId ≠ user := find?_key_eq_none.mp hfind
    have hcart : p.store.cartOf context.clock user =
        ⟨p.sequences.cart, user, context.clock.store, context.clock.store⟩ := by
      rw [Store.cartOf, Progress.store, hfind]
      rfl
    have howned : ¬ ∃ cart ∈ p.tables.carts, cart.userId = user := by
      rintro ⟨held, hheld, h⟩
      exact hnone held hheld h
    have hroom : p.store.CanHold user ↔
        FreeIn (p.tables.carts.map (·.id)) p.sequences.cart 1 := or_iff_right howned
    have hstore : p.store.holding context.clock user = _ :=
      if_neg fun h => howned (any_owned_iff.mp h)
    have hmade : Returns (findOrCreate user) context p cart p' ↔
        Returns (create user) context p cart p' := hlook.bind_iff
    rw [hmade, hroom, hcart, hstore, hcart, FreeIn.one_iff]
    unfold create
    rw [returns_bind_storeTime]
    simp only [returns_bind, returns_sequences, Table.returns_insert calm, returns_pure, and_assoc,
      exists_and_left, exists_eq_left, exists_const, Bool.and_eq_true, List.all_eq_true,
      decide_eq_true_eq, List.mem_map, not_exists, not_and]
    constructor
    · rintro ⟨hfits, hfresh, rfl, rfl⟩
      exact ⟨hfits, fun row hrow => (hfresh row hrow).1, rfl, rfl⟩
    · rintro ⟨hfits, hfresh, rfl, rfl⟩
      exact ⟨hfits, fun row hrow => ⟨hfresh row hrow, hnone row hrow⟩, rfl, rfl⟩

/-- What a request needs to be put into a cart. -/
def Puttable (t : Tables) (id : CartId) (request : LineRequest) : Prop :=
  0 < request.quantity ∧ (∃ cart ∈ t.carts, cart.id = id) ∧
    ∃ product ∈ t.products, product.id = request.productId

/-- The progress with other lines of carts. -/
def withLines (p : Progress) (lines : List CartItem) : Progress :=
  { p with tables := { p.tables with cartItems := lines } }

theorem returns_putLine {request : LineRequest} {u : PUnit} (calm : p.fault = none) :
    Returns (putLine id request) context p u p' ↔
      Puttable p.tables id request ∧
        p' = withLines p (CartItem.put id context.clock.store p.tables.cartItems request) := by
  unfold putLine
  rw [returns_bind_storeTime]
  simp only [returns_bind, returns_statement calm, returns_tables, returns_constraint,
    returns_modifyTables, and_assoc, exists_and_left, exists_eq_left, exists_const]
  refine and_congr ?_ Iff.rfl
  simp only [Bool.and_eq_true, List.any_eq_true, decide_eq_true_eq, and_assoc, Puttable]

theorem returns_forM_putLine {u : PUnit} (calm : p.fault = none) :
    Returns (forM requests (putLine id)) context p u p' ↔
      (∀ request ∈ requests, Puttable p.tables id request) ∧
        p' = withLines p
          (requests.foldl (CartItem.put id context.clock.store) p.tables.cartItems) := by
  induction requests generalizing p u with
  | nil => simp [withLines]
  | cons request rest ih =>
    rw [returns_forM_cons, List.forall_mem_cons, List.foldl_cons]
    have calm' : (withLines p
        (CartItem.put id context.clock.store p.tables.cartItems request)).fault = none := calm
    constructor
    · rintro ⟨middle, hone, hrest⟩
      obtain ⟨hput, rfl⟩ := (returns_putLine calm).mp hone
      obtain ⟨hall, rfl⟩ := (ih calm').mp hrest
      exact ⟨⟨hput, hall⟩, rfl⟩
    · rintro ⟨⟨hput, hall⟩, rfl⟩
      exact ⟨_, (returns_putLine calm).mpr ⟨hput, rfl⟩, (ih calm').mpr ⟨hall, rfl⟩⟩

theorem replaceLines_iff {items : List CartItem} (calm : p.fault = none) :
    Returns (replaceLines id requests) context p items p' ↔
      (∀ request ∈ requests, Puttable p.tables id request) ∧
        items = sortBy (fun a b => a.productId ≤ b.productId)
          ((CartItem.replaced id context.clock.store requests p.tables.cartItems).filter
            fun line => line.cartId = id) ∧
        p' = { p with tables := { p.tables with
          carts := updateWhere (fun row => row.id = id) (touched context.clock.store) p.tables.carts
          cartItems :=
            CartItem.replaced id context.clock.store requests p.tables.cartItems } } := by
  rw [replaceLines, List.forM_eq_forM]
  constructor
  · intro h
    obtain ⟨⟨⟩, cleared, hclear, h⟩ := returns_bind.mp h
    obtain rfl := (Table.returns_delete calm).mp hclear
    obtain ⟨⟨⟩, filled, hfill, h⟩ := returns_bind.mp h
    obtain ⟨hall, rfl⟩ := (returns_forM_putLine (by exact calm)).mp hfill
    obtain ⟨⟨⟩, marked, htouch, h⟩ := returns_bind.mp h
    obtain rfl := (returns_touch (by exact calm)).mp htouch
    obtain ⟨rfl, rfl⟩ := (returns_lines (by exact calm)).mp h
    exact ⟨hall, rfl, rfl⟩
  · rintro ⟨hall, rfl, rfl⟩
    refine returns_bind.mpr ⟨⟨⟩, _, (Table.returns_delete calm).mpr rfl, ?_⟩
    refine returns_bind.mpr ⟨⟨⟩, _, (returns_forM_putLine (by exact calm)).mpr ⟨hall, rfl⟩, ?_⟩
    refine returns_bind.mpr ⟨⟨⟩, _, (returns_touch (by exact calm)).mpr rfl, ?_⟩
    exact (returns_lines (by exact calm)).mpr ⟨rfl, rfl⟩

theorem fetchOrCreate_iff {filled : FilledCart} (calm : p.fault = none) :
    Returns (fetchOrCreate user) context p filled p' ↔
      p.store.CanHold user ∧
        filled = ⟨p.store.cartOf context.clock user, sortBy (fun a b => a.productId ≤ b.productId)
          ((p.store.holding context.clock user).tables.cartItems.filter
            fun line => line.cartId = (p.store.cartOf context.clock user).id)⟩ ∧
        p' = p.at (p.store.holding context.clock user) := by
  constructor
  · intro h
    obtain ⟨cart, held, hheld, hrest⟩ := returns_bind.mp h
    obtain ⟨hroom, rfl, rfl⟩ := (findOrCreate_iff calm).mp hheld
    obtain ⟨items, last, hlines, hfilled⟩ := returns_bind.mp hrest
    obtain ⟨rfl, rfl⟩ := (returns_lines (by exact calm)).mp hlines
    obtain ⟨rfl, rfl⟩ := returns_pure.mp hfilled
    exact ⟨hroom, rfl, rfl⟩
  · rintro ⟨hroom, rfl, rfl⟩
    exact returns_bind.mpr ⟨_, _, (findOrCreate_iff calm).mpr ⟨hroom, rfl, rfl⟩,
      returns_bind.mpr ⟨_, _, (returns_lines (by exact calm)).mpr ⟨rfl, rfl⟩,
        returns_pure.mpr ⟨rfl, rfl⟩⟩⟩

/-- Looking at the cart only reads. -/
theorem returns_look {u : PUnit} (calm : p.fault = none) :
    Returns (discard (fetch user)) context p u p' ↔ p' = p := by
  have hfetch : Returns (fetch user) context p
      ((p.tables.carts.find? fun cart => cart.userId = user).map fun cart => ⟨cart,
        sortBy (fun a b => a.productId ≤ b.productId)
          (p.tables.cartItems.filter fun line => line.cartId = cart.id)⟩) p := by
    refine returns_bind.mpr ⟨_, p, (returns_findFor calm).mpr ⟨rfl, rfl⟩, ?_⟩
    cases p.tables.carts.find? fun cart => cart.userId = user with
    | none => exact returns_pure.mpr ⟨rfl, rfl⟩
    | some cart =>
      exact returns_bind.mpr ⟨_, p, (returns_lines calm).mpr ⟨rfl, rfl⟩,
        returns_pure.mpr ⟨rfl, rfl⟩⟩
  rw [returns_discard]
  constructor
  · rintro ⟨found, h⟩
    exact congrArg Prod.snd (h.symm.trans hfetch)
  · rintro rfl
    exact ⟨_, hfetch⟩

end Cart

namespace Store

variable {store : Store} {clock : Clock} {user : UserId}

theorem products_holding : (store.holding clock user).tables.products = store.tables.products := by
  unfold holding
  split <;> rfl

theorem cartItems_holding :
    (store.holding clock user).tables.cartItems = store.tables.cartItems := by
  unfold holding
  split <;> rfl

theorem userId_cartOf : (store.cartOf clock user).userId = user := by
  unfold cartOf
  cases hfind : store.tables.carts.find? fun cart => cart.userId = user with
  | none => rfl
  | some cart => exact (mem_of_find?_key hfind).2

theorem cartOf_mem_holding : store.cartOf clock user ∈ (store.holding clock user).tables.carts := by
  unfold holding
  split
  next h =>
    obtain ⟨held, hheld, howned⟩ := Cart.any_owned_iff.mp h
    cases hfind : store.tables.carts.find? fun cart => cart.userId = user with
    | none => exact absurd howned (find?_key_eq_none.mp hfind held hheld)
    | some cart =>
      rw [cartOf, hfind]
      exact (mem_of_find?_key hfind).1
  next => exact List.mem_append_right _ (List.mem_singleton_self _)

end Store

namespace Cart

/-- A cart can be replaced if what is asked for is acceptable, and the user has or gets a cart. -/
theorem returns_replace {answer : FilledCart} (calm : p.fault = none)
    (products : (p.tables.products.map (·.id)).Nodup) :
    Returns (replace user requests) context p answer p' ↔
      Acceptable p.tables requests ∧ p.store.CanHold user ∧
        answer = ⟨p.store.cartOf context.clock user,
          p.store.refilledItems context.clock user requests⟩ ∧
        p' = p.at (p.store.refilled context.clock user requests) := by
  have hproducts : (p.at (p.store.holding context.clock user)).tables.products =
      p.tables.products := Store.products_holding
  have hlines : (p.at (p.store.holding context.clock user)).tables.cartItems =
      p.tables.cartItems := Store.cartItems_holding
  have hcalm : (p.at (p.store.holding context.clock user)).fault = none := calm
  have hafter : p.at (p.store.refilled context.clock user requests) =
      { p.at (p.store.holding context.clock user) with
        tables := { (p.at (p.store.holding context.clock user)).tables with
          carts := updateWhere (fun row => row.id = (p.store.cartOf context.clock user).id)
            (touched context.clock.store) (p.store.holding context.clock user).tables.carts
          cartItems := CartItem.replaced (p.store.cartOf context.clock user).id
            context.clock.store requests p.tables.cartItems } } := rfl
  rw [hafter]
  constructor
  · intro h
    obtain ⟨⟨⟩, start, hchecked, hbody⟩ := returns_bind.mp h
    obtain ⟨hok, rfl⟩ := returns_ofExcept.mp hchecked
    obtain ⟨few, limited, distinct⟩ := checkRequests_eq_ok.mp hok
    obtain ⟨filled, held, hfilled, hlook⟩ := returns_bind.mp (returns_transaction.mp hbody)
    obtain ⟨hroom, rfl, rfl⟩ := (fetchOrCreate_iff calm).mp hfilled
    obtain ⟨⟨⟩, looked, hlooked, hsell⟩ := returns_bind.mp hlook
    obtain rfl := (returns_look hcalm).mp hlooked
    obtain ⟨⟨⟩, checked, hsold, hreplace⟩ := returns_bind.mp hsell
    rw [List.forM_eq_forM] at hsold
    obtain ⟨hsale, rfl⟩ := (returns_forM_reading fun request _ =>
      returns_requireForSale hcalm).mp hsold
    obtain ⟨items, last, hitems, hanswer⟩ := returns_bind.mp hreplace
    obtain ⟨-, rfl, rfl⟩ := (replaceLines_iff hcalm).mp hitems
    obtain ⟨rfl, rfl⟩ := returns_pure.mp hanswer
    rw [hproducts] at hsale
    refine ⟨⟨few, limited, distinct, fun request hrequest => ?_⟩, hroom, ?_, ?_⟩
    · obtain ⟨product, hfind, hactive⟩ := hsale request hrequest
      obtain ⟨hmem, hid⟩ := mem_of_find?_key hfind
      exact ⟨product, hmem, hid, hactive⟩
    · rw [hlines]
      rfl
    · rw [hlines]
      rfl
  · rintro ⟨⟨few, limited, distinct, for_sale⟩, hroom, rfl, rfl⟩
    refine returns_bind.mpr ⟨⟨⟩, p,
      returns_ofExcept.mpr ⟨checkRequests_eq_ok.mpr ⟨few, limited, distinct⟩, rfl⟩,
      returns_transaction.mpr ?_⟩
    refine returns_bind.mpr ⟨_, _, (fetchOrCreate_iff calm).mpr ⟨hroom, rfl, rfl⟩, ?_⟩
    refine returns_bind.mpr ⟨⟨⟩, _, (returns_look hcalm).mpr rfl, ?_⟩
    rw [List.forM_eq_forM]
    refine returns_bind.mpr ⟨⟨⟩, _, (returns_forM_reading fun request _ =>
      returns_requireForSale hcalm).mpr ⟨fun request hrequest => ?_, rfl⟩, ?_⟩
    · obtain ⟨product, hmem, hid, hactive⟩ := for_sale request hrequest
      rw [hproducts]
      exact ⟨product, (find?_key_iff products).mpr ⟨hmem, hid⟩, hactive⟩
    refine returns_bind.mpr ⟨_, _, (replaceLines_iff hcalm).mpr ⟨fun request hrequest => ?_, rfl,
      rfl⟩, returns_pure.mpr ⟨?_, ?_⟩⟩
    · obtain ⟨product, hmem, hid, -⟩ := for_sale request hrequest
      refine ⟨(limited request hrequest).1, ⟨_, Store.cartOf_mem_holding, rfl⟩, product, ?_, hid⟩
      rwa [hproducts]
    · rw [hlines]
      rfl
    · rw [hlines]
      rfl

end Cart

/-! What a replacement leaves behind. -/

/-- Carts, their lines and products are told apart by their keys. -/
structure Tables.Keyed (t : Tables) : Prop where
  products_key : (t.products.map (·.id)).Nodup
  carts_key : (t.carts.map (·.id)).Nodup
  one_cart_per_user : (t.carts.map (·.userId)).Nodup
  cartItems_key : (t.cartItems.map CartItem.key).Nodup

theorem Tables.Constrained.keyed {t : Tables} (h : t.Constrained) : t.Keyed :=
  ⟨h.products_key, h.carts_key, h.one_cart_per_user, h.cartItems_key⟩

/-- The lines of a user's cart are what was asked for; what was in it before stays since when it
was, and nothing else has changed. -/
structure Cart.Replaced (clock : Clock) (user : UserId) (requests : List LineRequest) (t : Tables)
    (cart : Cart) (items : List CartItem) (t' : Tables) : Prop where
  one_cart : t'.carts.filter (fun row => row.userId = user) = [cart.touched clock.store]
  same_cart : ∀ row ∈ t.carts, row.userId = user → row = cart
  other_carts : t'.carts.filter (fun row => row.userId ≠ user) =
    t.carts.filter fun row => row.userId ≠ user
  lines : (t'.cartItems.filter fun line => line.cartId = cart.id).Perm items
  asked : (items.map CartItem.request).Perm requests
  ascending : items.Pairwise fun line later => line.productId < later.productId
  kept : ∀ line ∈ items, ∀ old ∈ t.cartItems, old.key = line.key → line.createdAt = old.createdAt
  other_lines : t'.cartItems.filter (fun line => line.cartId ≠ cart.id) =
    t.cartItems.filter fun line => line.cartId ≠ cart.id
  untouched : Cart.Untouched t t'

namespace Store

variable {store : Store} {clock : Clock} {user : UserId} {requests : List LineRequest}

theorem cartOf_eq {cart : Cart} (keyed : store.tables.Keyed) (h : cart ∈ store.tables.carts)
    (howned : cart.userId = user) : store.cartOf clock user = cart := by
  rw [cartOf, (find?_key_iff keyed.one_cart_per_user).mpr ⟨h, howned⟩]
  rfl

theorem holding_eq_self {cart : Cart} (h : cart ∈ store.tables.carts)
    (howned : cart.userId = user) : store.holding clock user = store :=
  if_pos (Cart.any_owned_iff.mpr ⟨cart, h, howned⟩)

/-- A user without a cart gets the next one. -/
theorem holding_of_none (h : ∀ cart ∈ store.tables.carts, cart.userId ≠ user) :
    store.holding clock user =
      { tables := { store.tables with
          carts := store.tables.carts ++ [⟨store.sequences.cart, user, clock.store, clock.store⟩] }
        sequences := { store.sequences with cart := store.sequences.cart + 1 } } := by
  have hcart : store.cartOf clock user =
      ⟨store.sequences.cart, user, clock.store, clock.store⟩ := by
    rw [cartOf, find?_key_eq_none.mpr h]
    rfl
  rw [holding, if_neg fun hany => ?_, hcart]
  obtain ⟨cart, hcart, howned⟩ := Cart.any_owned_iff.mp hany
  exact h cart hcart howned

theorem keyed_holding (clock : Clock) (keyed : store.tables.Keyed) (room : store.CanHold user) :
    (store.holding clock user).tables.Keyed := by
  by_cases howned : ∃ cart ∈ store.tables.carts, cart.userId = user
  · obtain ⟨cart, hcart, howned⟩ := howned
    rwa [holding_eq_self hcart howned]
  · have hfree := FreeIn.one_iff.mp (room.resolve_left howned)
    have hnone : ∀ cart ∈ store.tables.carts, cart.userId ≠ user := fun cart hcart h =>
      howned ⟨cart, hcart, h⟩
    rw [holding_of_none hnone]
    refine ⟨keyed.products_key, ?_, ?_, keyed.cartItems_key⟩
    · refine nodup_keys_append keyed.carts_key (List.nodup_singleton _)
        fun row hrow other hother h => hfree.2 ?_
      obtain rfl := List.mem_singleton.mp hrow
      exact List.mem_map.mpr ⟨other, hother, h⟩
    · refine nodup_keys_append keyed.one_cart_per_user (List.nodup_singleton _)
        fun row hrow other hother h => hnone other hother ?_
      obtain rfl := List.mem_singleton.mp hrow
      exact h

/-- The carts of other users are what they were. -/
theorem other_carts_holding : (store.holding clock user).tables.carts.filter
    (fun row => row.userId ≠ user) = store.tables.carts.filter fun row => row.userId ≠ user := by
  by_cases howned : ∃ cart ∈ store.tables.carts, cart.userId = user
  · obtain ⟨cart, hcart, howned⟩ := howned
    rw [holding_eq_self hcart howned]
  · rw [holding_of_none fun cart hcart h => howned ⟨cart, hcart, h⟩, List.filter_append]
    simp

theorem untouched_holding : Cart.Untouched store.tables (store.holding clock user).tables := by
  unfold holding
  split <;> rfl

theorem products_refilled :
    (store.refilled clock user requests).tables.products = store.tables.products :=
  products_holding

theorem keyed_refilled (keyed : store.tables.Keyed) (room : store.CanHold user) :
    (store.refilled clock user requests).tables.Keyed := by
  obtain ⟨hproducts, hcarts, husers, -⟩ := keyed_holding clock keyed room
  have hids : (store.refilled clock user requests).tables.carts.map (·.id) =
      (store.holding clock user).tables.carts.map (·.id) := map_updateWhere fun _ => rfl
  have howners : (store.refilled clock user requests).tables.carts.map (·.userId) =
      (store.holding clock user).tables.carts.map (·.userId) := map_updateWhere fun _ => rfl
  exact ⟨hproducts, by rwa [hids], by rwa [howners],
    CartItem.nodup_replaced keyed.cartItems_key⟩

/-- Only the cart of the user is marked. -/
theorem id_eq_cartOf_iff (keyed : store.tables.Keyed) (room : store.CanHold user) {row : Cart}
    (hrow : row ∈ (store.holding clock user).tables.carts) :
    row.id = (store.cartOf clock user).id ↔ row.userId = user := by
  have hheld := keyed_holding clock keyed room
  constructor
  · intro h
    rw [eq_of_key_eq hheld.carts_key hrow cartOf_mem_holding h, userId_cartOf]
  · intro h
    rw [eq_of_key_eq hheld.one_cart_per_user hrow cartOf_mem_holding (h.trans userId_cartOf.symm)]

theorem one_cart_refilled (keyed : store.tables.Keyed) (room : store.CanHold user) :
    (store.refilled clock user requests).tables.carts.filter (fun row => row.userId = user) =
      [(store.cartOf clock user).touched clock.store] := by
  have hheld := keyed_holding clock keyed room
  have hone : (store.holding clock user).tables.carts.filter (fun row => row.userId = user) =
      [store.cartOf clock user] := by
    rw [filter_key_eq_toList hheld.one_cart_per_user,
      (find?_key_iff hheld.one_cart_per_user).mpr ⟨cartOf_mem_holding, userId_cartOf⟩]
    rfl
  have hmarked : (store.refilled clock user requests).tables.carts.filter
      (fun row => row.userId = user) =
        updateWhere (fun row => row.id = (store.cartOf clock user).id) (Cart.touched clock.store)
          ((store.holding clock user).tables.carts.filter fun row => row.userId = user) :=
    filter_updateWhere fun _ => rfl
  rw [hmarked, hone]
  simp

theorem other_carts_refilled (keyed : store.tables.Keyed) (room : store.CanHold user) :
    (store.refilled clock user requests).tables.carts.filter (fun row => row.userId ≠ user) =
      store.tables.carts.filter fun row => row.userId ≠ user := by
  have hmarked : (store.refilled clock user requests).tables.carts.filter
      (fun row => row.userId ≠ user) =
        (store.holding clock user).tables.carts.filter fun row => row.userId ≠ user :=
    filter_updateWhere_eq (fun _ => rfl) fun row hrow hother => decide_eq_false fun h =>
      of_decide_eq_true hother ((id_eq_cartOf_iff keyed room hrow).mp h)
  rw [hmarked, other_carts_holding]

theorem untouched_refilled :
    Cart.Untouched store.tables (store.refilled clock user requests).tables := by
  have hheld : Cart.Untouched store.tables (store.holding clock user).tables := untouched_holding
  exact hheld.trans rfl

theorem refilledItems_perm (keyed : store.tables.Keyed)
    (distinct : (requests.map (·.productId)).Nodup) :
    (store.refilledItems clock user requests).Perm
      (requests.map (CartItem.placed (store.cartOf clock user).id clock.store
        store.tables.cartItems)) :=
  (sortBy_perm _ _).trans (CartItem.own_replaced keyed.cartItems_key distinct)

theorem refilledItems_ascend (keyed : store.tables.Keyed)
    (distinct : (requests.map (·.productId)).Nodup) :
    (store.refilledItems clock user requests).Pairwise
      fun line later => line.productId < later.productId := by
  have hdistinct : (store.refilledItems clock user requests).Pairwise
      fun line later => line.productId ≠ later.productId := by
    rw [← List.pairwise_map]
    refine ((refilledItems_perm keyed distinct).map _).nodup_iff.mpr ?_
    rwa [List.map_map]
  have hsorted : (store.refilledItems clock user requests).Pairwise
      fun line later => line.productId ≤ later.productId := by
    refine (pairwise_sortBy (fun a b c => ?_) (fun a b => ?_) _).imp of_decide_eq_true
    · simpa using Int.le_trans
    · simpa using Int.le_total a.productId b.productId
  exact (hsorted.and hdistinct).imp fun h => lt_of_le_of_ne h.1 h.2

/-- What a replacement leaves behind. -/
theorem replaced_refilled (keyed : store.tables.Keyed) (room : store.CanHold user)
    (distinct : (requests.map (·.productId)).Nodup) :
    Cart.Replaced clock user requests store.tables (store.cartOf clock user)
      (store.refilledItems clock user requests)
      (store.refilled clock user requests).tables where
  one_cart := one_cart_refilled keyed room
  same_cart row hrow howned := (cartOf_eq keyed hrow howned).symm
  other_carts := other_carts_refilled keyed room
  lines := (sortBy_perm _ _).symm
  asked := by
    have hperm : (store.refilledItems clock user requests).Perm _ :=
      refilledItems_perm keyed distinct
    exact (hperm.map CartItem.request).trans (.of_eq CartItem.map_request_placed)
  ascending := refilledItems_ascend keyed distinct
  kept line hline old hold hkey := by
    obtain ⟨request, -, rfl⟩ :=
      List.mem_map.mp ((refilledItems_perm keyed distinct).mem_iff.mp hline)
    obtain ⟨hcart, hproduct⟩ := Prod.mk.inj hkey
    have hfound : store.tables.cartItems.find?
        (CartItem.isFor (store.cartOf clock user).id request) = some old :=
      CartItem.find?_isFor_eq_some keyed.cartItems_key hold
        (CartItem.isFor_iff.mpr ⟨hcart, hproduct⟩)
    rw [CartItem.placed, hfound]
    rfl
  other_lines := CartItem.others_replaced
  untouched := untouched_refilled

theorem cart_mem_refilled (keyed : store.tables.Keyed) (room : store.CanHold user) :
    (store.cartOf clock user).touched clock.store ∈
      (store.refilled clock user requests).tables.carts := by
  have hone : (store.cartOf clock user).touched clock.store ∈
      (store.refilled clock user requests).tables.carts.filter fun row => row.userId = user := by
    rw [one_cart_refilled keyed room]
    exact List.mem_singleton_self _
  exact (List.mem_filter.mp hone).1

theorem cartOf_refilled (keyed : store.tables.Keyed) (room : store.CanHold user)
    (later : Clock) : (store.refilled clock user requests).cartOf later user =
      (store.cartOf clock user).touched clock.store :=
  cartOf_eq (keyed_refilled keyed room) (cart_mem_refilled keyed room) userId_cartOf

theorem holding_refilled (keyed : store.tables.Keyed) (room : store.CanHold user)
    (later : Clock) : (store.refilled clock user requests).holding later user =
      store.refilled clock user requests :=
  holding_eq_self (cart_mem_refilled keyed room) userId_cartOf

/-- The user keeps the cart. -/
theorem canHold_refilled (keyed : store.tables.Keyed) (room : store.CanHold user) :
    (store.refilled clock user requests).CanHold user :=
  .inl ⟨_, cart_mem_refilled keyed room, userId_cartOf⟩

end Store

/-! Times aside. -/

/-- The cart without the time of its last change. -/
def Cart.undated (cart : Cart) : Cart :=
  { cart with updatedAt := ⟨0, 0⟩ }

/-- The cart without its times. -/
def Cart.timeless (cart : Cart) : Cart :=
  { cart with createdAt := ⟨0, 0⟩, updatedAt := ⟨0, 0⟩ }

/-- The tables without the times at which carts and their lines were last changed. -/
def Tables.undatedCarts (t : Tables) : Tables :=
  { t with
    carts := t.carts.map Cart.undated
    cartItems := t.cartItems.map CartItem.undated }

/-- The tables differ at most in the times of carts and of their lines. -/
structure Tables.AgreeButCartTimes (t t' : Tables) : Prop where
  carts : t'.carts.map Cart.timeless = t.carts.map Cart.timeless
  lines : (t'.cartItems.map CartItem.timeless).Perm (t.cartItems.map CartItem.timeless)
  untouched : Cart.Untouched t t'

namespace Store

variable {store : Store} {clock later : Clock} {user : UserId} {requests others : List LineRequest}

theorem id_cartOf (store : Store) (clock later : Clock) (user : UserId) :
    (store.cartOf later user).id = (store.cartOf clock user).id := by
  unfold cartOf
  cases store.tables.carts.find? fun cart => cart.userId = user <;> rfl

theorem timeless_holding (store : Store) (clock later : Clock) (user : UserId) :
    (store.holding later user).tables.carts.map Cart.timeless =
      (store.holding clock user).tables.carts.map Cart.timeless := by
  by_cases howned : ∃ cart ∈ store.tables.carts, cart.userId = user
  · obtain ⟨cart, hcart, howned⟩ := howned
    rw [holding_eq_self hcart howned, holding_eq_self hcart howned]
  · have hnone : ∀ cart ∈ store.tables.carts, cart.userId ≠ user := fun cart hcart h =>
      howned ⟨cart, hcart, h⟩
    rw [holding_of_none hnone, holding_of_none hnone, List.map_append, List.map_append]
    rfl

theorem timeless_carts_refilled : (store.refilled clock user requests).tables.carts.map
    Cart.timeless = (store.holding clock user).tables.carts.map Cart.timeless :=
  map_updateWhere fun _ => rfl

theorem tables_refilled (store : Store) (clock : Clock) (user : UserId)
    (requests : List LineRequest) : (store.refilled clock user requests).tables =
      { (store.holding clock user).tables with
        carts := updateWhere (fun row => row.id = (store.cartOf clock user).id)
          (Cart.touched clock.store) (store.holding clock user).tables.carts
        cartItems := CartItem.replaced (store.cartOf clock user).id clock.store requests
          store.tables.cartItems } :=
  rfl

/-- The store once a cart that was replaced is replaced again. -/
theorem tables_refilled_again (keyed : store.tables.Keyed) (room : store.CanHold user) :
    ((store.refilled clock user others).refilled later user requests).tables =
      { (store.refilled clock user others).tables with
        carts := updateWhere (fun row => row.id = (store.cartOf clock user).id)
          (Cart.touched later.store) (store.refilled clock user others).tables.carts
        cartItems := CartItem.replaced (store.cartOf clock user).id later.store requests
          (CartItem.replaced (store.cartOf clock user).id clock.store others
            store.tables.cartItems) } := by
  have hid : ((store.refilled clock user others).cartOf later user).id =
      (store.cartOf clock user).id := by
    rw [cartOf_refilled keyed room later]
    rfl
  have hlines : (store.refilled clock user others).tables.cartItems =
      CartItem.replaced (store.cartOf clock user).id clock.store others
        store.tables.cartItems := rfl
  rw [← hlines, ← hid, tables_refilled (store.refilled clock user others) later user requests,
    holding_refilled keyed room later]

/-- Doing it once more changes only when the lines and the cart were last changed. -/
theorem undated_refilled_again (keyed : store.tables.Keyed) (room : store.CanHold user)
    (distinct : (requests.map (·.productId)).Nodup) :
    ((store.refilled clock user requests).refilled later user requests).tables.undatedCarts =
      (store.refilled clock user requests).tables.undatedCarts := by
  have hcarts : (updateWhere (fun row => row.id = (store.cartOf clock user).id)
      (Cart.touched later.store) (store.refilled clock user requests).tables.carts).map
        Cart.undated = (store.refilled clock user requests).tables.carts.map Cart.undated :=
    map_updateWhere fun _ => rfl
  rw [tables_refilled_again keyed room, Tables.undatedCarts, Tables.undatedCarts, hcarts,
    CartItem.undated_replaced keyed.cartItems_key distinct]
  rfl

/-- Whatever the cart was replaced by before makes no difference, times aside. -/
theorem refilled_overwrites (keyed : store.tables.Keyed) (room : store.CanHold user)
    (distinct : (requests.map (·.productId)).Nodup) :
    (store.refilled later user requests).tables.AgreeButCartTimes
      ((store.refilled clock user others).refilled later user requests).tables := by
  have hagain : ((store.refilled clock user others).refilled later user requests).tables = _ :=
    tables_refilled_again keyed room
  refine ⟨?_, ?_, ?_⟩
  · rw [timeless_carts_refilled, holding_refilled keyed room, timeless_carts_refilled,
      timeless_carts_refilled]
    exact timeless_holding store later clock user
  · have hdirect : (store.refilled later user requests).tables.cartItems =
        CartItem.replaced (store.cartOf clock user).id later.store requests
          store.tables.cartItems := by
      rw [← id_cartOf store clock later user]
      rfl
    rw [hagain, hdirect]
    refine (CartItem.timeless_replaced (CartItem.nodup_replaced keyed.cartItems_key) distinct).trans
      ?_
    rw [CartItem.others_replaced]
    exact (CartItem.timeless_replaced keyed.cartItems_key distinct).symm
  · have hfirst : Cart.Untouched store.tables (store.refilled clock user others).tables :=
      untouched_refilled
    exact (Cart.Untouched.symm untouched_refilled).trans (hfirst.trans untouched_refilled)

end Store

namespace Step

variable {currency : String} {step : Step} {store : Store} {user : UserId}
  {requests : List LineRequest}

/-- A request for a replacement does what it asks for. -/
theorem run_replaceCart (currency : String) (keyed : store.tables.Keyed)
    (asked : step.operation? = some (.replaceCart user requests)) (calm : step.fault = none)
    (accepted : Cart.Acceptable store.tables requests) (room : store.CanHold user) :
    (step.run currency store).answer = step.answerOf (.replaceCart user requests) (.ok (.cart
        ⟨store.cartOf step.clock user, store.refilledItems step.clock user requests⟩)) ∧
      (step.run currency store).answer.isError = false ∧
      (step.run currency store).store = store.refilled step.clock user requests := by
  have hreturns : Returns (Operation.perform (.replaceCart user requests)) (step.context currency)
      (step.start store)
      (.cart ⟨store.cartOf step.clock user, store.refilledItems step.clock user requests⟩)
      ((step.start store).at (store.refilled step.clock user requests)) :=
    returns_map.mpr ⟨_, (Cart.returns_replace calm keyed.products_key).mpr
      ⟨accepted, room, rfl, rfl⟩, rfl⟩
  exact ⟨(outcome_of_returns currency asked hreturns).1,
    (succeeds_iff asked).mpr ⟨_, _, hreturns, rfl⟩⟩

theorem replaceCart_succeeds_iff (currency : String) (keyed : store.tables.Keyed)
    (asked : step.operation? = some (.replaceCart user requests)) (calm : step.fault = none) :
    (step.run currency store).answer.isError = false ↔
      Cart.Acceptable store.tables requests ∧ store.CanHold user := by
  constructor
  · intro h
    obtain ⟨reply, p', hreturns, -⟩ := (succeeds_iff asked).mp ⟨h, rfl⟩
    obtain ⟨answer, hreplace, -⟩ := returns_map.mp hreturns
    obtain ⟨accepted, room, -⟩ := (Cart.returns_replace calm keyed.products_key).mp hreplace
    exact ⟨accepted, room⟩
  · rintro ⟨accepted, room⟩
    exact (run_replaceCart currency keyed asked calm accepted room).2.1

end Step

/-- A cart is replaced if and only if what is asked for keeps to the limits and is for sale, and the
user has a cart or can get one. Then the user has one cart that holds just what was asked for,
however often that is done, and whatever the cart held before; otherwise nothing changes. -/
theorem cart_replaced (currency : String) {store : Store} {step : Step} {user : UserId}
    {requests : List LineRequest} (constrained : store.tables.Constrained)
    (asked : step.operation? = some (.replaceCart user requests)) (calm : step.fault = none) :
    ((step.run currency store).answer.isError = false ↔
        Cart.Acceptable store.tables requests ∧ store.CanHold user) ∧
      ((step.run currency store).answer.isError = false →
        (∃ cart items,
          (step.run currency store).answer =
              step.answerOf (.replaceCart user requests) (.ok (.cart ⟨cart, items⟩)) ∧
            Cart.Replaced step.clock user requests store.tables cart items
              (step.run currency store).store.tables) ∧
        ∀ again : Step, again.operation? = some (.replaceCart user requests) →
          again.fault = none →
          (again.run currency (step.run currency store).store).answer.isError = false ∧
            (again.run currency (step.run currency store).store).store.tables.undatedCarts =
              (step.run currency store).store.tables.undatedCarts) ∧
      (∀ (earlier : Step) (others : List LineRequest),
        earlier.operation? = some (.replaceCart user others) → earlier.fault = none →
        (earlier.run currency store).answer.isError = false →
        ((step.run currency (earlier.run currency store).store).answer.isError = false ↔
            (step.run currency store).answer.isError = false) ∧
          ((step.run currency store).answer.isError = false →
            (step.run currency store).store.tables.AgreeButCartTimes
              (step.run currency (earlier.run currency store).store).store.tables)) ∧
      ((step.run currency store).answer.isError = true →
        (step.run currency store).store.tables = store.tables ∧
          (step.run currency store).events = []) := by
  have hkeyed := constrained.keyed
  have hsucceeds := Step.replaceCart_succeeds_iff currency hkeyed asked calm
  refine ⟨hsucceeds, fun h => ?_, fun earlier others hasked hcalm h => ?_, fun h => ?_⟩
  · obtain ⟨accepted, room⟩ := hsucceeds.mp h
    obtain ⟨hanswer, -, hstore⟩ := step.run_replaceCart currency hkeyed asked calm accepted room
    rw [hstore]
    refine ⟨⟨_, _, hanswer, Store.replaced_refilled hkeyed room accepted.distinct⟩,
      fun again hagain hcalm => ?_⟩
    have haccepted : Cart.Acceptable (store.refilled step.clock user requests).tables requests :=
      accepted.congr Store.products_refilled
    obtain ⟨-, hanswer', hstore'⟩ := again.run_replaceCart currency
      (Store.keyed_refilled hkeyed room) hagain hcalm haccepted (Store.canHold_refilled hkeyed room)
    rw [hstore']
    exact ⟨hanswer', Store.undated_refilled_again hkeyed room accepted.distinct⟩
  · obtain ⟨haccepted, room⟩ := (Step.replaceCart_succeeds_iff currency hkeyed hasked hcalm).mp h
    obtain ⟨-, -, hstore⟩ := earlier.run_replaceCart currency hkeyed hasked hcalm haccepted room
    have hkeyed' : (store.refilled earlier.clock user others).tables.Keyed :=
      Store.keyed_refilled hkeyed room
    have hroom : (store.refilled earlier.clock user others).CanHold user :=
      Store.canHold_refilled hkeyed room
    have hsame : Cart.Acceptable (store.refilled earlier.clock user others).tables requests ↔
        Cart.Acceptable store.tables requests :=
      ⟨fun h => h.congr Store.products_refilled.symm, fun h => h.congr Store.products_refilled⟩
    rw [hstore]
    constructor
    · rw [Step.replaceCart_succeeds_iff currency hkeyed' asked calm, hsucceeds, hsame,
        and_iff_left hroom, and_iff_left room]
    · intro h
      have accepted := (hsucceeds.mp h).1
      obtain ⟨-, -, hdirect⟩ := step.run_replaceCart currency hkeyed asked calm accepted room
      obtain ⟨-, -, hagain⟩ := step.run_replaceCart currency hkeyed' asked calm
        (hsame.mpr accepted) hroom
      rw [hdirect, hagain]
      exact Store.refilled_overwrites hkeyed room accepted.distinct
  · exact Step.unchanged_of_atomic asked ((Cart.atomic_replace user requests).map _) h

/-- User 7 wants lamps, and more mugs than are in the cart. -/
def Step.moreMugs : Step :=
  { ofCall (.replaceCart 7 [⟨4, 1⟩, ⟨3, 5⟩]) with clock := ⟨⟨30, 0⟩, ⟨30, 0⟩⟩ }

/-- A store in which user 7 has put mugs into a cart. -/
def Store.withMugs : Store :=
  { Store.stocked with
    tables := { Store.stocked.tables with
      carts := [⟨1, 7, ⟨9, 0⟩, ⟨9, 0⟩⟩]
      cartItems := [⟨1, 3, 2, ⟨9, 0⟩, ⟨9, 0⟩⟩] }
    sequences := { Store.stocked.sequences with cart := 2 } }

theorem cart_moreMugs :
    (Step.moreMugs.run "INR" .withMugs).answer.isError = false ∧
      (Step.moreMugs.run "INR" .withMugs).store.tables.cartItems =
        [⟨1, 3, 5, ⟨9, 0⟩, ⟨30, 0⟩⟩, ⟨1, 4, 1, ⟨30, 0⟩, ⟨30, 0⟩⟩] ∧
      Cart.Acceptable Store.withMugs.tables [⟨4, 1⟩, ⟨3, 5⟩] ∧
      (Step.moreMugs.run "INR" (Step.moreMugs.run "INR" .withMugs).store).answer.isError =
        false := by
  have hconstrained : Store.withMugs.tables.Constrained := by
    constructor <;> simp +decide
  have hasked : Step.moreMugs.operation? = some (.replaceCart 7 [⟨4, 1⟩, ⟨3, 5⟩]) := rfl
  obtain ⟨hsucceeds, hdone, -, -⟩ := cart_replaced "INR" hconstrained hasked rfl
  have hanswer : (Step.moreMugs.run "INR" .withMugs).answer.isError = false := by decide +kernel
  exact ⟨hanswer, by decide +kernel, (hsucceeds.mp hanswer).1,
    ((hdone hanswer).2 .moreMugs rfl rfl).1⟩

/-- A store in which another user's cart has the identifier that the next cart would take. -/
def Store.outOfTurn : Store :=
  { Store.stocked with tables := { Store.stocked.tables with
      carts := [⟨1, 9, ⟨0, 0⟩, ⟨0, 0⟩⟩] } }

/-- What is asked for is not all that counts: a user gets no cart where its identifier is taken. -/
theorem cart_outOfTurn :
    ¬ ∀ (store : Store) (user : UserId) (requests : List LineRequest),
      store.tables.Constrained →
        (((Step.ofCall (.replaceCart user requests)).run "INR" store).answer.isError = false ↔
          Cart.Acceptable store.tables requests) := by
  intro h
  have hconstrained : Store.outOfTurn.tables.Constrained := by
    constructor <;> simp +decide
  have haccepted : Cart.Acceptable Store.outOfTurn.tables [⟨3, 2⟩] := by
    constructor <;> simp +decide
  have hdone := (h .outOfTurn 7 [⟨3, 2⟩] hconstrained).mpr haccepted
  revert hdone
  decide +kernel

end Storefront
