import Storefront.Proofs.Cart.Replacement

/-!
Reading a cart that was just replaced. The lines are answered as they are stored. The cart itself is
answered as it was found or created, before it is marked as changed, so that whoever looks next
finds it with another time of the last change, unless the replacement created it.
-/

namespace Storefront

open Session

/-- The cart of a user with its lines by product, as they are stored. -/
structure FilledCart.StoredIn (t : Tables) (user : UserId) (filled : FilledCart) : Prop where
  found : t.carts.find? (fun row => row.userId = user) = some filled.cart
  listed : filled.items = sortBy (fun a b => a.productId ≤ b.productId)
    (t.cartItems.filter fun line => line.cartId = filled.cart.id)

/-- A user who looks at the cart next finds it as it is. -/
def FilledCart.IsRead (currency : String) (store : Store) (user : UserId) (filled : FilledCart) :
    Prop :=
  ∀ look : Step, look.operation? = some (.getCart user) → look.fault = none →
    look.OnlyAnswers currency store (.getCart user) (.ok (.cart filled))

variable {currency : String} {store : Store} {context : Context} {p : Progress} {user : UserId}

namespace FilledCart

variable {filled other : FilledCart}

theorem StoredIn.returns_fetchOrCreate (stored : filled.StoredIn p.tables user)
    (calm : p.fault = none) : Returns (Cart.fetchOrCreate user) context p filled p := by
  have hlook : Returns (Cart.findFor user) context p (some filled.cart) p :=
    (Cart.returns_findFor calm).mpr ⟨stored.found.symm, rfl⟩
  have hheld : Returns (Cart.findOrCreate user) context p filled.cart p :=
    hlook.bind_iff.mpr (returns_pure.mpr ⟨rfl, rfl⟩)
  exact hheld.bind_iff.mpr <| returns_bind.mpr ⟨filled.items, p,
    (Cart.returns_lines calm).mpr ⟨stored.listed, rfl⟩, returns_pure.mpr ⟨rfl, rfl⟩⟩

theorem StoredIn.isRead (store : Store) (stored : filled.StoredIn store.tables user) :
    filled.IsRead currency store user := by
  intro look asked calm
  have hread : Returns (Cart.fetchOrCreate user) (look.context currency) (look.start store) filled
      (look.start store) := StoredIn.returns_fetchOrCreate stored calm
  obtain ⟨hanswer, hstore, hevents⟩ :=
    Step.outcome_of_returns currency asked (returns_map.mpr ⟨filled, hread, rfl⟩)
  exact ⟨hanswer, hstore, hevents⟩

/-- Only one cart is read. -/
theorem IsRead.eq (h : filled.IsRead currency store user) (h' : other.IsRead currency store user) :
    filled = other := by
  have hanswer := (h (.ofCall (.getCart user)) rfl rfl).answer.symm.trans
    (h' (.ofCall (.getCart user)) rfl rfl).answer
  injection hanswer with houtcome
  injection houtcome with hreply
  injection hreply

end FilledCart

namespace Cart

variable {clock : Clock} {t t' : Tables} {cart : Cart} {answer : FilledCart}

theorem touched_eq_self {now : Instant} : cart.touched now = cart ↔ cart.updatedAt = now := by
  constructor
  · intro h
    exact congrArg Cart.updatedAt h.symm
  · rintro rfl
    rfl

/-- A response shows when the cart was last changed. -/
theorem render_eq_of_ofOutcome {operation : Operation} {other : Cart} {items items' : List CartItem}
    (h : Http.Response.ofOutcome operation (.ok (.cart ⟨cart, items⟩)) =
      Http.Response.ofOutcome operation (.ok (.cart ⟨other, items'⟩))) :
    cart.updatedAt.render = other.updatedAt.render := by
  have hdata : (Reply.cart ⟨cart, items⟩).toJson = (Reply.cart ⟨other, items'⟩).toJson := by
    simpa [Http.Response.ofOutcome, Http.Response.success] using h
  have hcart : cart.toJson = other.toJson := by
    simp only [Reply.toJson, FilledCart.toJson, Json.object.injEq, List.cons.injEq,
      Prod.mk.injEq] at hdata
    exact hdata.1.2
  simp only [toJson, Json.instant, Json.object.injEq, List.cons.injEq, Prod.mk.injEq,
    Json.string.injEq] at hcart
  exact hcart.2.2.2.1.2

theorem Held.found {number : CartId} (h : Held clock user number t cart t') :
    t'.carts.find? (fun row => row.userId = user) = some cart := by
  rcases h with ⟨hfound, rfl⟩ | hcreated
  · exact hfound
  · rw [hcreated.changed, List.find?_append, hcreated.missing, hcreated.cart_eq]
    simp

theorem Held.eq_cartOf (h : Held clock user store.sequences.cart store.tables cart t') :
    cart = store.cartOf clock user := by
  rcases h with ⟨hfound, -⟩ | hcreated
  · rw [Store.cartOf, hfound]
    rfl
  · rw [Store.cartOf, hcreated.missing]
    exact hcreated.cart_eq

/-- What is stored is what is answered, but for the mark on the cart. -/
theorem Refilled.storedIn {number : CartId} (h : Refilled clock user number t answer t') :
    FilledCart.StoredIn t' user ⟨answer.cart.touched clock.store, answer.items⟩ := by
  obtain ⟨middle, hheld, hcarts⟩ := h.held
  refine ⟨?_, h.listed⟩
  have hmarked : t'.carts.find? (fun row => row.userId = user) = _ :=
    hcarts ▸ find?_updateWhere (f := Cart.touched clock.store) fun _ => rfl
  rw [hmarked, hheld.found, Option.map_some, if_pos (decide_eq_true rfl)]

end Cart

/-- Marking a cart changes nothing if it is new, or was last changed at this very time. -/
theorem Store.touched_cartOf {clock : Clock} :
    (store.cartOf clock user).touched clock.store = store.cartOf clock user ↔
      ∀ cart, store.tables.carts.find? (fun row => row.userId = user) = some cart →
        cart.updatedAt = clock.store := by
  rw [Cart.touched_eq_self, cartOf]
  cases store.tables.carts.find? fun row => row.userId = user with
  | none => simp
  | some cart => simp

/-- What a replacement answers and stores. -/
theorem Step.read_of_replaceCart {put : Step} {requests : List LineRequest}
    (asked : put.operation? = some (.replaceCart user requests)) (calm : put.fault = none)
    (succeeds : (put.run currency store).answer.isError = false) :
    ∃ items,
      (put.run currency store).answer = put.answerOf (.replaceCart user requests)
          (.ok (.cart ⟨store.cartOf put.clock user, items⟩)) ∧
        FilledCart.IsRead currency (put.run currency store).store user
          ⟨(store.cartOf put.clock user).touched put.clock.store, items⟩ := by
  obtain ⟨reply, after, hreturns, hafter⟩ := (succeeds_iff asked).mp ⟨succeeds, rfl⟩
  obtain ⟨⟨cart, items⟩, hreplace, rfl⟩ := returns_map.mp hreturns
  have hrefilled : Cart.Refilled put.clock user store.sequences.cart store.tables ⟨cart, items⟩
      after.tables := Cart.refilled_of_returns calm hreplace
  obtain ⟨middle, hheld, -⟩ := hrefilled.held
  obtain rfl : cart = store.cartOf put.clock user := hheld.eq_cartOf
  obtain ⟨hanswer, -, -⟩ := outcome_of_returns currency asked hreturns
  rw [← hafter]
  exact ⟨items, hanswer, hrefilled.storedIn.isRead after.store⟩

/-- What is answered when a cart is replaced, and what the user finds when looking next. The lines
are the same in every column. The cart is answered as it was before, or as it was created, and it is
found marked as changed, so that the two agree if and only if the user had no cart or one that was
last changed at this very time. -/
theorem replaced_cart_read (currency : String) {store : Store} {put : Step} {user : UserId}
    {requests : List LineRequest} (asked : put.operation? = some (.replaceCart user requests))
    (calm : put.fault = none) (succeeds : (put.run currency store).answer.isError = false) :
    ∃ items,
      (put.run currency store).answer = put.answerOf (.replaceCart user requests)
          (.ok (.cart ⟨store.cartOf put.clock user, items⟩)) ∧
        FilledCart.IsRead currency (put.run currency store).store user
          ⟨(store.cartOf put.clock user).touched put.clock.store, items⟩ ∧
        (FilledCart.IsRead currency (put.run currency store).store user
            ⟨store.cartOf put.clock user, items⟩ ↔
          ∀ cart, store.tables.carts.find? (fun row => row.userId = user) = some cart →
            cart.updatedAt = put.clock.store) := by
  obtain ⟨items, hanswer, hread⟩ := Step.read_of_replaceCart asked calm succeeds
  refine ⟨items, hanswer, hread, ?_⟩
  rw [← Store.touched_cartOf]
  constructor
  · intro hunmarked
    exact congrArg FilledCart.cart (hread.eq hunmarked)
  · intro hsame
    rwa [hsame] at hread

/-- User 7 sends for lamps, and for more mugs than are in the cart. -/
def Step.moreMugsSent : Step :=
  { moreMugs with action := .request ⟨.put, "/carts/me",
      ⟨[("x-user-id", "7"), ("content-type", "application/json")]⟩,
      "\x7b\"items\":[\x7b\"product_id\":4,\"quantity\":1\x7d," ++
        "\x7b\"product_id\":3,\"quantity\":5\x7d]\x7d"⟩ }

/-- Who had no cart finds it as it was answered. -/
theorem replaced_cart_read_first :
    ∃ filled : FilledCart,
      (Step.moreMugsSent.run "INR" .stocked).answer =
          Step.moreMugsSent.answerOf (.replaceCart 7 [⟨4, 1⟩, ⟨3, 5⟩]) (.ok (.cart filled)) ∧
        filled.IsRead "INR" (Step.moreMugsSent.run "INR" .stocked).store 7 := by
  have hasked : Step.moreMugsSent.operation? = some (.replaceCart 7 [⟨4, 1⟩, ⟨3, 5⟩]) := by
    decide +kernel
  have hsucceeds : (Step.moreMugsSent.run "INR" .stocked).answer.isError = false := by
    decide +kernel
  obtain ⟨items, hanswer, -, hagree⟩ := replaced_cart_read "INR" hasked rfl hsucceeds
  exact ⟨_, hanswer, hagree.mpr (by simp [Store.stocked, Tables.empty])⟩

/-- Who had one is answered with a time of the last change that is over. -/
theorem replaced_cart_stale :
    ¬ ∀ (store : Store) (user : UserId) (requests : List LineRequest) (put : Step),
      put.operation? = some (.replaceCart user requests) → put.fault = none →
        (put.run "INR" store).answer.isError = false →
          ∃ filled : FilledCart,
            (put.run "INR" store).answer =
                put.answerOf (.replaceCart user requests) (.ok (.cart filled)) ∧
              filled.IsRead "INR" (put.run "INR" store).store user := by
  intro h
  have hasked : Step.moreMugsSent.operation? = some (.replaceCart 7 [⟨4, 1⟩, ⟨3, 5⟩]) := by
    decide +kernel
  have hsucceeds : (Step.moreMugsSent.run "INR" .withMugs).answer.isError = false := by
    decide +kernel
  obtain ⟨filled, hclaimed, hread⟩ := h .withMugs 7 _ .moreMugsSent hasked rfl hsucceeds
  obtain ⟨items, hanswer, hfound⟩ := Step.read_of_replaceCart hasked rfl hsucceeds
  obtain rfl := hread.eq hfound
  have hsent := hclaimed.symm.trans hanswer
  injection hsent with hresponse
  exact absurd (Cart.render_eq_of_ofOutcome hresponse) (by decide +kernel)

end Storefront
