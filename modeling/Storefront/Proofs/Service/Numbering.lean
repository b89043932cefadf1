import Storefront.Proofs.Order.Commutation
import Storefront.Proofs.Service.Effects

/-!
Identifiers are taken in turn. A row that is added takes the next identifier of its sequence, and no
sequence ever goes back, not even where a transaction that fails takes the row away again. So the
next identifiers of a sequence are free wherever a run has come to.
-/

namespace Storefront

/-- Tables whose orders, items, copies of addresses and payments have the same identifiers. -/
structure Tables.SameIds (t t' : Tables) : Prop where
  orders : t'.orders.map (·.id) = t.orders.map (·.id)
  orderItems : t'.orderItems.map (·.id) = t.orderItems.map (·.id)
  orderAddresses : t'.orderAddresses.map (·.id) = t.orderAddresses.map (·.id)
  payments : t'.payments.map (·.id) = t.payments.map (·.id)

/-- None of the sequences that orders and payments take identifiers from has gone back. -/
structure Sequences.Precede (s s' : Sequences) : Prop where
  orderAddress : s.orderAddress ≤ s'.orderAddress
  order : s.order ≤ s'.order
  orderItem : s.orderItem ≤ s'.orderItem
  payment : s.payment ≤ s'.payment

/-- Orders, items, copies of addresses and payments have identifiers that their sequences have
passed. -/
structure Store.Numbered (store : Store) : Prop where
  orders : ∀ id ∈ store.tables.orders.map (·.id), id < store.sequences.order
  orderItems : ∀ id ∈ store.tables.orderItems.map (·.id), id < store.sequences.orderItem
  orderAddresses : ∀ id ∈ store.tables.orderAddresses.map (·.id),
    id < store.sequences.orderAddress
  payments : ∀ id ∈ store.tables.payments.map (·.id),
    ∃ n < store.sequences.payment, id = Uuid.numbered n

/-- One store becomes the other by taking identifiers in turn. -/
structure Store.Advances (store after : Store) : Prop where
  precede : store.sequences.Precede after.sequences
  numbered : store.Numbered → after.Numbered

theorem Sequences.Precede.refl (s : Sequences) : s.Precede s :=
  ⟨Int.le_refl _, Int.le_refl _, Int.le_refl _, Nat.le_refl _⟩

theorem Sequences.Precede.trans {s s' s'' : Sequences} (h : s.Precede s') (h' : s'.Precede s'') :
    s.Precede s'' :=
  ⟨Int.le_trans h.orderAddress h'.orderAddress, Int.le_trans h.order h'.order,
    Int.le_trans h.orderItem h'.orderItem, Nat.le_trans h.payment h'.payment⟩

namespace Store

variable {store after last : Store}

/-- Identifiers that sequences have passed stay passed. -/
theorem Numbered.of_sameIds (h : store.Numbered) (same : store.tables.SameIds after.tables)
    (precede : store.sequences.Precede after.sequences) : after.Numbered := by
  constructor
  · rw [same.orders]
    exact fun id hid => Int.lt_of_lt_of_le (h.orders id hid) precede.order
  · rw [same.orderItems]
    exact fun id hid => Int.lt_of_lt_of_le (h.orderItems id hid) precede.orderItem
  · rw [same.orderAddresses]
    exact fun id hid => Int.lt_of_lt_of_le (h.orderAddresses id hid) precede.orderAddress
  · rw [same.payments]
    intro id hid
    obtain ⟨n, hn, hnumber⟩ := h.payments id hid
    exact ⟨n, Nat.lt_of_lt_of_le hn precede.payment, hnumber⟩

theorem Advances.refl (store : Store) : store.Advances store :=
  ⟨.refl _, id⟩

theorem Advances.trans (h : store.Advances after) (h' : after.Advances last) :
    store.Advances last :=
  ⟨h.precede.trans h'.precede, fun hstore => h'.numbered (h.numbered hstore)⟩

theorem Advances.of_sameIds (same : store.tables.SameIds after.tables)
    (precede : store.sequences.Precede after.sequences) : store.Advances after :=
  ⟨precede, fun h => h.of_sameIds same precede⟩

/-- The sequence has passed the identifiers that were taken from it, old and new. -/
theorem passed_append {α : Type} {key : α → Int} {rows added : List α} {next : Int} {count : Nat}
    (passed : ∀ id ∈ rows.map key, id < next) (taken : added.map key = idsFrom next count) :
    ∀ id ∈ (rows ++ added).map key, id < next + count := by
  rw [List.map_append, taken, List.forall_mem_append]
  refine ⟨fun id hid => ?_, fun id hid => (mem_idsFrom.mp hid).2⟩
  have hlt := passed id hid
  omega

theorem numbered_append {rows : List PaymentRow} {row : PaymentRow} {next : Nat}
    (passed : ∀ id ∈ rows.map (·.id), ∃ n < next, id = Uuid.numbered n)
    (taken : row.id = Uuid.numbered next) :
    ∀ id ∈ (rows ++ [row]).map (·.id), ∃ n < next + 1, id = Uuid.numbered n := by
  rw [List.map_append, List.forall_mem_append, List.map_singleton, List.forall_mem_singleton]
  refine ⟨fun id hid => ?_, next, Nat.lt_succ_self _, taken⟩
  obtain ⟨n, hn, hnumber⟩ := passed id hid
  exact ⟨n, Nat.lt_succ_of_lt hn, hnumber⟩

/-- The next identifiers are free if they fit their columns. -/
theorem Numbered.hasRoom (h : store.Numbered) {count : Nat}
    (copy : Text.fitsSigned 32 store.sequences.orderAddress)
    (order : Text.fitsSigned 32 store.sequences.order)
    (items : ∀ n < count, Text.fitsSigned 32 (store.sequences.orderItem + n)) :
    store.HasRoom count := by
  have hfree {ids : List Int} {next : Int} {count : Nat} (passed : ∀ id ∈ ids, id < next)
      (fits : ∀ n < count, Text.fitsSigned 32 (next + n)) : FreeIn ids next count := by
    intro id hle hlt
    obtain ⟨n, rfl⟩ := Int.le.dest hle
    exact ⟨fits n (by omega), fun hid => absurd (passed _ hid) (by omega)⟩
  have hone {next : Int} (fits : Text.fitsSigned 32 next) :
      ∀ n < 1, Text.fitsSigned 32 (next + (n : Nat)) := by
    intro n hn
    obtain rfl : n = 0 := by omega
    simpa using fits
  exact ⟨hfree h.orderAddresses (hone copy), hfree h.orders (hone order), hfree h.orderItems items⟩

end Store

namespace Session

variable {α β : Type}

/-- The session takes identifiers in turn, whether it fails or not. -/
class InTurn (session : Session α) : Prop where
  advances : ∀ (context : Context) (p : Progress),
    p.store.Advances (session.exec context p).2.store

theorem InTurn.of_store {session : Session α}
    (h : ∀ context p, (session.exec context p).2.store = p.store) : InTurn session :=
  ⟨fun context p => by rw [h]; exact .refl _⟩

/-- The store after a session that only reads. -/
theorem store_exec (session : Session α) [Within .reading session] (context : Context)
    (p : Progress) : (session.exec context p).2.store = p.store := by
  have hcalm : (session.exec context p).2.calm.store = p.calm.store :=
    congrArg Progress.store (calm_exec session context p)
  exact hcalm

instance (priority := low) {session : Session α} [Within .reading session] : InTurn session :=
  .of_store (store_exec session)

theorem InTurn.bind {first : Session α} {next : α → Session β} (hfirst : InTurn first)
    (hnext : ∀ a, InTurn (next a)) : InTurn (first >>= next) := by
  refine ⟨fun context p => ?_⟩
  have hstart := hfirst.advances context p
  rw [exec_bind]
  rcases hexec : first.exec context p with ⟨cause | a, middle⟩
  · rwa [hexec] at hstart
  · rw [hexec] at hstart
    exact hstart.trans ((hnext a).advances context middle)

instance {first : Session α} {next : α → Session β} [hfirst : InTurn first]
    [hnext : ∀ a, InTurn (next a)] : InTurn (first >>= next) :=
  hfirst.bind hnext

instance {f : α → β} {session : Session α} [InTurn session] : InTurn (f <$> session) := by
  rw [map_eq_pure_bind]
  infer_instance

instance {session : Session α} [InTurn session] : InTurn (discard session) :=
  inferInstanceAs (InTurn ((fun _ => PUnit.unit) <$> session))

instance {condition : Prop} [Decidable condition] {yes no : Session α} [hyes : InTurn yes]
    [hno : InTurn no] : InTurn (if condition then yes else no) := by
  split
  · exact hyes
  · exact hno

/-- A transaction that fails puts the tables back, and leaves the sequences where they are. -/
theorem InTurn.transaction {body : Session α} (h : InTurn body) : InTurn (transaction body) := by
  refine ⟨fun context p => ?_⟩
  have hbody := h.advances context p
  rw [exec_transaction]
  rcases hexec : body.exec context p with ⟨cause | a, after⟩
  · rw [hexec] at hbody
    exact .of_sameIds ⟨rfl, rfl, rfl, rfl⟩ hbody.precede
  · rwa [hexec] at hbody

instance {body : Session α} [h : InTurn body] : InTurn (transaction body) :=
  h.transaction

instance {body : Session α} [h : InTurn body] : InTurn (attempt body) :=
  ⟨fun context p => h.advances context p⟩

instance (event : Event) : InTurn (announce event) := .of_store fun _ _ => rfl

instance (stock : Int) : InTurn (recordStock stock) := .of_store fun _ _ => rfl

instance {f : α → Session PUnit} [∀ x, InTurn (f x)] (xs : List α) : InTurn (forM xs f) := by
  induction xs with
  | nil => exact inferInstanceAs (InTurn (pure PUnit.unit))
  | cons x rest ih =>
    rw [List.forM_cons]
    infer_instance

instance {f : α → Session PUnit} [∀ x, InTurn (f x)] (xs : List α) : InTurn (xs.forM f) := by
  rw [List.forM_eq_forM]
  infer_instance

instance {f : α → Session PUnit} [h : ∀ x, InTurn (f x)] (x? : Option α) : InTurn (x?.forM f) := by
  cases x? with
  | none => exact inferInstanceAs (InTurn (pure PUnit.unit))
  | some x => exact h x

instance {f : α → Session β} [∀ x, InTurn (f x)] (xs : List α) : InTurn (xs.mapM f) := by
  induction xs with
  | nil =>
    rw [List.mapM_nil]
    infer_instance
  | cons x rest ih =>
    rw [List.mapM_cons]
    infer_instance

/-- What a session advances to does not depend on what is made of its value. -/
theorem advances_map {f : α → β} {session : Session α} {context : Context} {p : Progress}
    (h : p.store.Advances (session.exec context p).2.store) :
    p.store.Advances ((f <$> session).exec context p).2.store := by
  rwa [exec_map_snd]

/-- A session that begins by looking at the clock and at the sequences. -/
theorem InTurn.of_sequences {next : Instant → Sequences → Session α}
    (h : ∀ (context : Context) (p : Progress), p.store.Advances
      ((next context.clock.store p.sequences).exec context p).2.store) :
    InTurn (do
      let now ← storeTime
      let s ← sequences
      next now s) :=
  ⟨h⟩

theorem inTurn_modifyTables {f : Tables → Tables} (h : ∀ t : Tables, t.SameIds (f t)) :
    InTurn (modifyTables f) :=
  ⟨fun _ p => .of_sameIds (h p.tables) (.refl _)⟩

end Session

open Session

namespace Table

variable {α : Type} {table : Table α} {context : Context} {p : Progress}

theorem inTurn_update {q : α → Bool} {f : α → α} {admitted : Tables → α → Bool}
    (h : ∀ t : Tables, t.SameIds (table.modifyRows (updateWhere q f) t)) :
    InTurn (table.update q f admitted) := by
  have := inTurn_modifyTables h
  unfold update
  infer_instance

/-- Rows are added and their identifiers taken, or nothing is done. -/
theorem store_insert (table : Table α) (admitted : Tables → Bool) (rows : List α)
    (take : Sequences → Sequences) (context : Context) (p : Progress) :
    ((table.insert admitted rows take).exec context p).2.store = p.store ∨
      ((table.insert admitted rows take).exec context p).2.store =
        ⟨table.modifyRows (· ++ rows) p.tables, take p.sequences⟩ := by
  have hstart := store_exec (statement .insert table.name) context p
  unfold insert
  rw [exec_bind]
  rcases hexec : (statement .insert table.name).exec context p with ⟨cause | u, middle⟩
  · rw [hexec] at hstart
    exact .inl hstart
  · rw [hexec] at hstart
    obtain ⟨htables, hsequences⟩ := Store.mk.inj hstart
    dsimp only at htables hsequences ⊢
    have hread : Returns Session.tables context middle middle.tables middle :=
      returns_tables.mpr ⟨rfl, rfl⟩
    cases hadmitted : admitted middle.tables with
    | false =>
      have hrefused : Refuses (constraint (admitted middle.tables)) context middle .internal := by
        rw [hadmitted]
        exact refuses_require
      rw [hread.refuses (hrefused.bind _)]
      exact .inl hstart
    | true =>
      right
      rw [← htables, ← hsequences]
      have hadded : Returns (do
          constraint (admitted middle.tables)
          modifySequences take
          modifyTables (table.modifyRows (· ++ rows))) context middle ⟨⟩ { middle with
            tables := table.modifyRows (· ++ rows) middle.tables
            sequences := take middle.sequences } := by
        simp [hadmitted]
      rw [returns_bind.mpr ⟨_, _, hread, hadded⟩]
      rfl

/-- Rows are added in turn if the identifiers that they bring are those taken. -/
theorem advances_insert {admitted : Tables → Bool} {rows : List α} {take : Sequences → Sequences}
    (h : p.store.Advances ⟨table.modifyRows (· ++ rows) p.tables, take p.sequences⟩) :
    p.store.Advances ((table.insert admitted rows take).exec context p).2.store := by
  rcases table.store_insert admitted rows take context p with hsame | hadded
  · rw [hsame]
    exact .refl _
  · rwa [hadded]

instance (q : Product → Bool) (f : Product → Product) (admitted : Tables → Product → Bool) :
    InTurn (products.update q f admitted) :=
  inTurn_update fun _ => ⟨rfl, rfl, rfl, rfl⟩

instance (q : OrderRow → Bool) (order : Order) (now : Instant)
    (admitted : Tables → OrderRow → Bool) :
    InTurn (orders.update q (order.overwrite now) admitted) :=
  inTurn_update fun _ => ⟨map_updateWhere fun _ => rfl, rfl, rfl, rfl⟩

instance (q : ItemRow → Bool) (item : OrderItem) (now : Instant)
    (admitted : Tables → ItemRow → Bool) :
    InTurn (orderItems.update q (item.overwrite now) admitted) :=
  inTurn_update fun _ => ⟨rfl, map_updateWhere fun _ => rfl, rfl, rfl⟩

instance (q : PaymentRow → Bool) (payment : Payment) (now : Instant)
    (admitted : Tables → PaymentRow → Bool) :
    InTurn (payments.update q (payment.overwrite now) admitted) :=
  inTurn_update fun _ => ⟨rfl, rfl, rfl, map_updateWhere fun _ => rfl⟩

instance (f : List Cart → List Cart) : InTurn (modifyTables (carts.modifyRows f)) :=
  inTurn_modifyTables fun _ => ⟨rfl, rfl, rfl, rfl⟩

instance (f : List CartItem → List CartItem) : InTurn (modifyTables (cartItems.modifyRows f)) :=
  inTurn_modifyTables fun _ => ⟨rfl, rfl, rfl, rfl⟩

end Table

namespace Product

instance (product : Product) : InTurn (save product) := by
  unfold save
  infer_instance

instance (id : ProductId) (quantity : Int) : InTurn (restock id quantity) := by
  unfold restock
  infer_instance

instance (id : ProductId) (stock : Option Int) (isActive : Option Bool) :
    InTurn (revise id stock isActive) := by
  unfold revise
  infer_instance

end Product

namespace Cart

instance (user : UserId) : InTurn (create user) :=
  .of_sequences fun _ _ => advances_map (Table.advances_insert (.of_sameIds ⟨rfl, rfl, rfl, rfl⟩
    ⟨Int.le_refl _, Int.le_refl _, Int.le_refl _, Nat.le_refl _⟩))

instance (user : UserId) : InTurn (findOrCreate user) := by
  unfold findOrCreate
  have (found : Option Cart) : InTurn (match found with
      | some cart => pure cart
      | none => create user) := by
    cases found <;> infer_instance
  infer_instance

instance (user : UserId) : InTurn (fetchOrCreate user) := by
  unfold fetchOrCreate
  infer_instance

instance (id : CartId) (request : LineRequest) : InTurn (putLine id request) := by
  unfold putLine
  infer_instance

instance (id : CartId) : InTurn (touch id) := by
  unfold touch
  infer_instance

instance (id : CartId) : InTurn (clear id) := by
  unfold clear Table.delete
  infer_instance

instance (id : CartId) (requests : List LineRequest) : InTurn (replaceLines id requests) := by
  unfold replaceLines Table.delete
  infer_instance

instance (user : UserId) (requests : List LineRequest) : InTurn (replace user requests) := by
  unfold replace
  infer_instance

end Cart

instance (destination : Destination) : InTurn (OrderAddress.create destination) := by
  refine .of_sequences fun context p => advances_map (Table.advances_insert ⟨?_, fun h => ?_⟩)
  · exact ⟨Int.le_add_one (Int.le_refl _), Int.le_refl _, Int.le_refl _, Nat.le_refl _⟩
  · exact ⟨h.orders, h.orderItems, Store.passed_append h.orderAddresses rfl, h.payments⟩

namespace OrderItem

instance (order : OrderId) (lines : List PricedLine) : InTurn (createAll order lines) := by
  refine .of_sequences fun context p => Table.advances_insert ⟨?_, fun h => ?_⟩
  · exact ⟨Int.le_refl _, Int.le_refl _, Int.le_add_of_nonneg_right (Int.natCast_nonneg _),
      Nat.le_refl _⟩
  · refine ⟨h.orders, Store.passed_append h.orderItems ?_, h.orderAddresses, h.payments⟩
    rw [List.map_map, length_ofLines]
    exact map_id_ofLines p.sequences.orderItem lines

instance (item : OrderItem) : InTurn (save item) := by
  unfold save
  infer_instance

end OrderItem

namespace Payment

instance (order : OrderId) (method : PaymentMethod) (amount : Cents) (currency : String) :
    InTurn (create order method amount currency) := by
  refine .of_sequences fun context p => advances_map (Table.advances_insert ⟨?_, fun h => ?_⟩)
  · exact ⟨Int.le_refl _, Int.le_refl _, Int.le_refl _, Nat.le_succ _⟩
  · exact ⟨h.orders, h.orderItems, h.orderAddresses, Store.numbered_append h.payments rfl⟩

instance (payment : Payment) : InTurn (save payment) := by
  unfold save
  infer_instance

instance (payment : Payment) : InTurn (refund payment) := by
  unfold refund
  infer_instance

end Payment

namespace Order

instance (user : UserId) (totals : OrderTotals) (address : AddressId) (method : PaymentMethod) :
    InTurn (create user totals address method) := by
  refine .of_sequences fun context p => advances_map (Table.advances_insert ⟨?_, fun h => ?_⟩)
  · exact ⟨Int.le_refl _, Int.le_add_one (Int.le_refl _), Int.le_refl _, Nat.le_refl _⟩
  · exact ⟨Store.passed_append h.orders rfl, h.orderItems, h.orderAddresses,
      h.payments⟩

instance (order : Order) : InTurn (save order) := by
  unfold save
  infer_instance

instance (now : Instant) (request : LineRequest) : InTurn (reserve now request) := by
  unfold reserve
  infer_instance

instance (user : UserId) (address : AddressId) (method : PaymentMethod) (source : Source) :
    InTurn (checkOut user address method source) := by
  unfold checkOut
  refine .transaction ?_
  refine .bind inferInstance fun found => .bind inferInstance fun address => ?_
  refine .bind inferInstance fun copy => .bind inferInstance fun requested => ?_
  infer_instance

instance (user : UserId) (address : AddressId) (method : PaymentMethod) (source : Source) :
    InTurn (place user address method source) := by
  unfold place
  infer_instance

instance (user : UserId) (address : AddressId) (method : PaymentMethod) :
    InTurn (placeFromCart user address method) := by
  unfold placeFromCart
  infer_instance

instance (user : UserId) (address : AddressId) (method : PaymentMethod)
    (requests : List LineRequest) : InTurn (placeDirect user address method requests) := by
  unfold placeDirect
  infer_instance

instance (payment : Option Payment) : InTurn (cancelPayment payment) := by
  cases payment <;> unfold cancelPayment <;> infer_instance

instance (order : Order) (payment : Option Payment) : InTurn (settleOnCancel order payment) := by
  unfold settleOnCancel
  split <;> infer_instance

instance (paidAt : Instant) (payment : Payment) : InTurn (payOnDelivery paidAt payment) := by
  unfold payOnDelivery
  infer_instance

instance (now : Instant) (order : Order) (payment : Option Payment) :
    InTurn (settleOnDelivery now order payment) := by
  unfold settleOnDelivery
  infer_instance

instance (next : OrderStatus) (now : Instant) (order : Order) (payment : Option Payment) :
    InTurn (settle next now order payment) := by
  cases next <;> unfold settle <;> infer_instance

instance (reason : String) (now : Instant) (item : OrderItem) :
    InTurn (cancelOne reason now item) := by
  unfold cancelOne
  infer_instance

instance (id : OrderId) (reason : String) (now : Instant) :
    InTurn (cancelOpenItems id reason now) := by
  unfold cancelOpenItems
  infer_instance

instance (next : OrderStatus) (now : Instant) (order : Order) :
    InTurn (emptyOnCancel next now order) := by
  unfold emptyOnCancel
  infer_instance

instance (user : UserId) (id : OrderId) (item : ItemId) (reason : String) :
    InTurn (withdrawItem user id item reason) := by
  unfold withdrawItem
  refine .transaction ?_
  refine .bind inferInstance fun found => .bind inferInstance fun order => ?_
  refine .bind inferInstance fun _ => .bind inferInstance fun _ => ?_
  refine .bind inferInstance fun found => .bind inferInstance fun item => ?_
  infer_instance

instance (user : UserId) (id : OrderId) : InTurn (cancelPending user id) := by
  unfold cancelPending
  refine .transaction ?_
  refine .bind inferInstance fun found => .bind inferInstance fun order => ?_
  refine .bind inferInstance fun _ => .bind inferInstance fun _ => ?_
  infer_instance

instance (id : OrderId) (next : OrderStatus) : InTurn (move id next) := by
  unfold move
  refine .transaction ?_
  refine .bind inferInstance fun found => .bind inferInstance fun order => ?_
  infer_instance

end Order

namespace Payment

instance (user : UserId) (id : OrderId) (method : PaymentMethod) (currency : String) :
    InTurn (openIntent user id method currency) := by
  unfold openIntent
  refine .transaction ?_
  refine .bind inferInstance fun found => .bind inferInstance fun order => ?_
  refine .bind inferInstance fun _ => .bind inferInstance fun _ => ?_
  refine .bind inferInstance fun payment => .bind inferInstance fun _ => ?_
  refine .bind inferInstance fun payment => ?_
  split <;> infer_instance

instance (order : Order) (payment : Payment) : InTurn (settle order payment) := by
  unfold settle
  infer_instance

instance (reference reported : String) : InTurn (applyCallback reference reported) := by
  unfold applyCallback
  refine .transaction ?_
  refine .bind inferInstance fun found => .bind inferInstance fun payment => ?_
  refine .bind inferInstance fun found => .bind inferInstance fun order => ?_
  refine .bind inferInstance fun found => .bind inferInstance fun payment => ?_
  refine .bind inferInstance fun confirmation => ?_
  cases confirmation <;> infer_instance

instance (id : OrderId) : InTurn (giveBack id) := by
  unfold giveBack
  infer_instance

instance (user : UserId) (id : OrderId) (method : PaymentMethod) :
    InTurn (createIntent user id method) := by
  unfold createIntent
  infer_instance

instance (reference reported : String) : InTurn (confirm reference reported) := by
  unfold confirm
  infer_instance

instance (id : OrderId) : InTurn (refundForOrder id) := by
  unfold refundForOrder
  infer_instance

end Payment

namespace Order

instance (user : UserId) (id : OrderId) (item : ItemId) (reason : String) :
    InTurn (cancelItem user id item reason) := by
  unfold cancelItem
  infer_instance

instance (id : OrderId) (order : Order) : InTurn (refundCancelled id order) := by
  unfold refundCancelled
  refine .bind inferInstance fun outcome => ?_
  cases outcome <;> infer_instance

instance (user : UserId) (id : OrderId) : InTurn (cancel user id) := by
  unfold cancel
  infer_instance

instance (id : OrderId) (next : OrderStatus) : InTurn (updateStatus id next) := by
  unfold updateStatus
  infer_instance

end Order

instance (operation : Operation) : InTurn operation.perform := by
  cases operation <;> exact inferInstanceAs (InTurn (_ <$> _))

variable {currency : String} {steps : List Step} {start : Store}

/-- A call or a request takes identifiers in turn. -/
theorem Step.advances (currency : String) {step : Step} (store : Store) (served : step.IsServed) :
    store.Advances (step.run currency store).store := by
  cases hop : step.operation? with
  | none =>
    rw [(run_of_no_operation currency store hop served).1]
    exact .refl _
  | some operation =>
    rw [(run_of_operation currency store hop).1]
    exact InTurn.advances (step.context currency) (step.start store)

/-- Wherever a run has come to that began without orders, identifiers were taken in turn. -/
theorem numbered_storeAfter (served : ∀ step ∈ steps, step.IsServed)
    (constrained : start.tables.Constrained) (orders : start.tables.orders = [])
    (copies : start.tables.orderAddresses = []) :
    (storeAfter currency steps start).Numbered := by
  refine storeAfter_induction (I := Store.Numbered) ?_ fun step hstep store hstore =>
    (Step.advances currency store (served step hstep)).numbered hstore
  constructor
  · simp [orders]
  · simp [constrained.orderItems_eq_nil orders]
  · simp [copies]
  · simp [constrained.payments_eq_nil orders]

end Storefront
