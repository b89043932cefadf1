import Storefront.Proofs.Service.Scope
import Storefront.Proofs.Store.Storage

/-!
What the operations on carts do. A cart that does not exist yet is created; nothing but carts and
their lines is ever touched.
-/

namespace Storefront

open Session

variable {context : Context} {p p' : Progress}

namespace Cart

@[simp] theorem returns_findFor {user : UserId} {found : Option Cart} (calm : p.fault = none) :
    Returns (findFor user) context p found p' ↔
      found = p.tables.carts.find? (fun row => row.userId = user) ∧ p' = p := by
  simp [findFor, calm, Table.carts]

@[simp] theorem returns_lines {id : CartId} {items : List CartItem} (calm : p.fault = none) :
    Returns (lines id) context p items p' ↔
      items = sortBy (fun a b => a.productId ≤ b.productId)
        (p.tables.cartItems.filter fun item => item.cartId = id) ∧ p' = p := by
  simp only [lines, returns_bind, Table.returns_select calm, returns_pure, and_assoc,
    exists_and_left, exists_eq_left]
  rfl

theorem returns_fetch {user : UserId} {filled : FilledCart} (calm : p.fault = none) :
    Returns (fetch user) context p (some filled) p' ↔
      p.tables.carts.find? (fun row => row.userId = user) = some filled.cart ∧
        filled.items = sortBy (fun a b => a.productId ≤ b.productId)
          (p.tables.cartItems.filter fun item => item.cartId = filled.cart.id) ∧ p' = p := by
  constructor
  · intro h
    obtain ⟨found, middle, hfound, h⟩ := returns_bind.mp h
    obtain ⟨hfound, rfl⟩ := (returns_findFor calm).mp hfound
    cases found with
    | none => simp at h
    | some cart =>
      obtain ⟨items, last, hitems, h⟩ := returns_bind.mp h
      obtain ⟨rfl, rfl⟩ := (returns_lines calm).mp hitems
      simp only [returns_pure, Option.some.injEq] at h
      obtain ⟨rfl, rfl⟩ := h
      exact ⟨hfound.symm, rfl, rfl⟩
  · rintro ⟨hfound, hitems, rfl⟩
    exact returns_bind.mpr ⟨some filled.cart, p', (returns_findFor calm).mpr ⟨hfound.symm, rfl⟩,
      returns_bind.mpr ⟨filled.items, p', (returns_lines calm).mpr ⟨hitems, rfl⟩,
        returns_pure.mpr ⟨rfl, rfl⟩⟩⟩

@[simp] theorem returns_clear {id : CartId} {u : Unit} (calm : p.fault = none) :
    Returns (clear id) context p u p' ↔
      p' = { p with tables := { p.tables with
        cartItems := p.tables.cartItems.filter fun item => !decide (item.cartId = id) } } :=
  Table.returns_delete calm

/-- A user who has no cart gets one. -/
structure Created (clock : Clock) (user : UserId) (number : CartId) (t : Tables) (cart : Cart)
    (t' : Tables) : Prop where
  missing : t.carts.find? (fun row => row.userId = user) = none
  cart_eq : cart = ⟨number, user, clock.store, clock.store⟩
  fresh : ∀ row ∈ t.carts, row.id ≠ cart.id
  changed : t' = { t with carts := t.carts ++ [cart] }

theorem returns_create {user : UserId} {cart : Cart} (calm : p.fault = none)
    (h : Returns (create user) context p cart p') :
    cart = ⟨p.sequences.cart, user, context.clock.store, context.clock.store⟩ ∧
      (∀ row ∈ p.tables.carts, row.id ≠ cart.id ∧ row.userId ≠ user) ∧
      p'.tables = { p.tables with carts := p.tables.carts ++ [cart] } := by
  unfold create at h
  rw [returns_bind_storeTime] at h
  simp only [returns_bind, returns_sequences, Table.returns_insert calm, returns_pure, and_assoc,
    exists_and_left, exists_eq_left, exists_const, Bool.and_eq_true, List.all_eq_true,
    decide_eq_true_eq] at h
  obtain ⟨-, hfresh, rfl, rfl⟩ := h
  exact ⟨rfl, hfresh, rfl⟩

/-- A user has a cart, which is created if there was none. -/
def Held (clock : Clock) (user : UserId) (number : CartId) (t : Tables) (cart : Cart)
    (t' : Tables) : Prop :=
  (t.carts.find? (fun row => row.userId = user) = some cart ∧ t' = t) ∨
    Created clock user number t cart t'

theorem returns_findOrCreate {user : UserId} {cart : Cart} (calm : p.fault = none)
    (h : Returns (findOrCreate user) context p cart p') :
    Held context.clock user p.sequences.cart p.tables cart p'.tables := by
  obtain ⟨found, middle, hfound, h⟩ := returns_bind.mp h
  obtain ⟨hfound, rfl⟩ := (returns_findFor calm).mp hfound
  cases found with
  | some other =>
    obtain ⟨rfl, rfl⟩ := returns_pure.mp h
    exact .inl ⟨hfound.symm, rfl⟩
  | none =>
    obtain ⟨hcart, hfresh, htables⟩ := returns_create calm h
    exact .inr ⟨hfound.symm, hcart, fun row hrow => (hfresh row hrow).1, htables⟩

/-- The tables but for carts and their lines are the same. -/
def Untouched (t t' : Tables) : Prop :=
  t' = { t with carts := t'.carts, cartItems := t'.cartItems }

theorem Untouched.trans {t t' t'' : Tables} (h : Untouched t t') (h' : Untouched t' t'') :
    Untouched t t'' := by
  unfold Untouched at *
  rw [h', h]

namespace Held

variable {clock : Clock} {user : UserId} {number : CartId} {t t' : Tables} {cart : Cart}

theorem changed (h : Held clock user number t cart t') : t' = { t with carts := t'.carts } := by
  rcases h with ⟨-, rfl⟩ | hcreated
  · rfl
  · rw [hcreated.changed]

theorem untouched (h : Held clock user number t cart t') : Untouched t t' := by
  rw [h.changed]
  rfl

end Held

/-- Changing some rows, or adding one where there are none, leaves the other rows. -/
theorem filter_put {α : Type} {q other : α → Bool} {f : α → α} {new : α} {rows : List α}
    (keeps : ∀ row, other (f row) = other row)
    (apart : ∀ row ∈ rows, other row → q row = false) (hnew : other new = false) :
    (if rows.any q then updateWhere q f rows else rows ++ [new]).filter other =
      rows.filter other := by
  split
  · exact filter_updateWhere_eq keeps apart
  · rw [List.filter_append, List.filter_cons_of_neg (Bool.eq_false_iff.mp hnew), List.filter_nil,
      List.append_nil]

/-- The tables but for the lines of one cart are the same. -/
structure Relined (id : CartId) (t t' : Tables) : Prop where
  changed : t' = { t with cartItems := t'.cartItems }
  spared : t'.cartItems.filter (fun line => line.cartId ≠ id) =
    t.cartItems.filter fun line => line.cartId ≠ id

theorem Relined.trans {id : CartId} {t t' t'' : Tables} (h : Relined id t t')
    (h' : Relined id t' t'') : Relined id t t'' := by
  refine ⟨?_, h'.spared.trans h.spared⟩
  rw [h'.changed, h.changed]

theorem relined_of_returns_putLine {id : CartId} {request : LineRequest} {u : Unit}
    (calm : p.fault = none) (h : Returns (putLine id request) context p u p') :
    Relined id p.tables p'.tables := by
  unfold putLine at h
  rw [returns_bind_storeTime] at h
  simp only [returns_bind, returns_statement calm, returns_tables, returns_constraint,
    returns_modifyTables, and_assoc, exists_and_left, exists_eq_left, exists_const] at h
  obtain ⟨-, rfl⟩ := h
  refine ⟨rfl, filter_put (fun _ => rfl) (fun line _ hother => ?_) ?_⟩
  · simp [of_decide_eq_true hother]
  · simp

theorem relined_of_returns_forM {id : CartId} {requests : List LineRequest}
    (calm : p.fault = none) (h : Returns (forM requests (putLine id)) context p ⟨⟩ p') :
    Relined id p.tables p'.tables := by
  induction requests generalizing p with
  | nil =>
    obtain rfl := returns_forM_nil.mp h
    exact ⟨rfl, rfl⟩
  | cons request rest ih =>
    obtain ⟨middle, hone, hrest⟩ := returns_forM_cons.mp h
    exact (relined_of_returns_putLine calm hone).trans (ih (hone.fault_eq_none calm) hrest)

theorem returns_touch {id : CartId} {u : Unit} (calm : p.fault = none) :
    Returns (touch id) context p u p' ↔
      p' = { p with tables := { p.tables with
        carts := updateWhere (fun cart => cart.id = id)
          (fun cart => { cart with updatedAt := context.clock.store }) p.tables.carts } } := by
  unfold touch
  rw [returns_bind_storeTime]
  simp only [returns_bind, returns_statement calm, returns_modifyTables, exists_eq_left,
    exists_const]
  rfl

/-- The lines of a user's cart are replaced, and the cart is marked as changed. No other cart and no
line of one is touched. -/
structure Refilled (clock : Clock) (user : UserId) (number : CartId) (t : Tables)
    (answer : FilledCart) (t' : Tables) : Prop where
  held : ∃ middle, Held clock user number t answer.cart middle ∧
    t'.carts = updateWhere (fun cart => cart.id = answer.cart.id)
      (fun cart => { cart with updatedAt := clock.store }) middle.carts
  spared : t'.cartItems.filter (fun line => line.cartId ≠ answer.cart.id) =
    t.cartItems.filter fun line => line.cartId ≠ answer.cart.id
  listed : answer.items = sortBy (fun a b => a.productId ≤ b.productId)
    (t'.cartItems.filter fun line => line.cartId = answer.cart.id)
  untouched : Untouched t t'

theorem returns_replaceLines {id : CartId} {requests : List LineRequest} {items : List CartItem}
    (calm : p.fault = none) (h : Returns (replaceLines id requests) context p items p') :
    ∃ lined, Relined id p.tables lined ∧
      p'.tables = { lined with
        carts := updateWhere (fun cart => cart.id = id)
          (fun cart => { cart with updatedAt := context.clock.store }) lined.carts } ∧
      items = sortBy (fun a b => a.productId ≤ b.productId)
        (p'.tables.cartItems.filter fun item => item.cartId = id) := by
  obtain ⟨⟨⟩, cleared, hclear, h⟩ := returns_bind.mp h
  obtain ⟨⟨⟩, filled, hfill, h⟩ := returns_bind.mp h
  obtain ⟨⟨⟩, touched, htouch, h⟩ := returns_bind.mp h
  have hcleared : Relined id p.tables cleared.tables := by
    rw [(Table.returns_delete calm).mp hclear]
    refine ⟨rfl, ?_⟩
    simp only [Table.modifyRows, Table.cartItems, List.filter_filter]
    refine List.filter_congr fun line _ => ?_
    by_cases hid : line.cartId = id <;> simp [hid]
  have calm' : cleared.fault = none := hclear.fault_eq_none calm
  rw [List.forM_eq_forM] at hfill
  have calm'' : filled.fault = none := hfill.fault_eq_none calm'
  obtain rfl := (returns_touch calm'').mp htouch
  obtain ⟨rfl, rfl⟩ := (returns_lines (by exact calm'')).mp h
  exact ⟨filled.tables, hcleared.trans (relined_of_returns_forM calm' hfill), rfl, rfl⟩

theorem refilled_of_returns {user : UserId} {requests : List LineRequest} {answer : FilledCart}
    (calm : p.fault = none) (h : Returns (replace user requests) context p answer p') :
    Refilled context.clock user p.sequences.cart p.tables answer p'.tables := by
  obtain ⟨⟨⟩, start, hchecked, hbody⟩ := returns_bind.mp h
  obtain ⟨-, rfl⟩ := returns_ofExcept.mp hchecked
  obtain ⟨filled, middle, hfilled, hrest⟩ := returns_bind.mp (returns_transaction.mp hbody)
  obtain ⟨⟨⟩, looked, hlooked, hrest⟩ := returns_bind.mp hrest
  obtain ⟨⟨⟩, checked, hsale, hrest⟩ := returns_bind.mp hrest
  obtain ⟨items, last, hitems, hrest⟩ := returns_bind.mp hrest
  obtain ⟨rfl, rfl⟩ := returns_pure.mp hrest
  obtain ⟨cart, created, hcreated, hlines⟩ := returns_bind.mp hfilled
  obtain ⟨old, _, hold, hanswer⟩ := returns_bind.mp hlines
  obtain ⟨rfl, rfl⟩ := returns_pure.mp hanswer
  have hread : checked.tables = created.tables :=
    hsale.tables_eq.trans (hlooked.tables_eq.trans hlines.tables_eq)
  have calm' : checked.fault = none :=
    hsale.fault_eq_none (hlooked.fault_eq_none (hfilled.fault_eq_none calm))
  have hheld := returns_findOrCreate calm hcreated
  obtain ⟨lined, hlined, htables, hlisted⟩ := returns_replaceLines calm' hitems
  rw [hread] at hlined
  have hcarts : lined.carts = created.tables.carts := by rw [hlined.changed]
  have hlines : created.tables.cartItems = start.tables.cartItems := by rw [hheld.changed]
  refine ⟨⟨created.tables, hheld, ?_⟩, ?_, ?_, ?_⟩
  · rw [htables, hcarts]
  · rw [htables, ← hlines]
    exact hlined.spared
  · exact hlisted
  · rw [htables, hlined.changed]
    exact hheld.untouched.trans rfl

end Cart
end Storefront
