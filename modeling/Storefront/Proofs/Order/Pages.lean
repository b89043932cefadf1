import Mathlib.Data.Int.Interval
import Mathlib.Data.List.Nodup
import Mathlib.Data.List.Perm.Basic
import Storefront.Proofs.Service.Isolation

/-!
Listings of orders. The pages of a user's orders, one after the other, are the listing of all orders
without those of anyone else, so that no order is lost or repeated between two pages, however many
were placed in one instant.
-/

namespace Storefront

open Session

/-- The row is listed before the other where the newest come first. -/
def OrderRow.Precedes (row other : OrderRow) : Prop :=
  other.createdAt < row.createdAt ∨ row.createdAt = other.createdAt ∧ other.id < row.id

namespace Order

variable {rows : List OrderRow}

theorem newestFirst_perm : (newestFirst rows).Perm rows :=
  sortBy_perm _ _

/-- Rows of different identifiers are listed in a strict order. -/
theorem pairwise_newestFirst (unique : (rows.map (·.id)).Nodup) :
    (newestFirst rows).Pairwise OrderRow.Precedes := by
  have hsorted : (newestFirst rows).Pairwise fun a b =>
      b.createdAt < a.createdAt ∨ a.createdAt = b.createdAt ∧ b.id ≤ a.id := by
    refine (pairwise_sortBy ?_ ?_ rows).imp fun h => by simpa using h
    all_goals simp only [Bool.or_eq_true, Bool.and_eq_true, decide_eq_true_eq]
    · rintro a b c (hab | ⟨hab, hid⟩) (hbc | ⟨hbc, hid'⟩)
      · exact .inl (Instant.lt_trans hbc hab)
      · exact .inl (hbc ▸ hab)
      · exact .inl (hab ▸ hbc)
      · exact .inr ⟨hab.trans hbc, Int.le_trans hid' hid⟩
    · intro a b
      rcases Instant.lt_trichotomy b.createdAt a.createdAt with h | h | h
      · exact .inl (.inl h)
      · exact (Int.le_total b.id a.id).imp (fun hid => .inr ⟨h.symm, hid⟩)
          fun hid => .inr ⟨h, hid⟩
      · exact .inr (.inl h)
  have hdistinct : (newestFirst rows).Pairwise fun a b => a.id ≠ b.id := by
    rw [← List.pairwise_map]
    exact (newestFirst_perm.map _).nodup_iff.mpr unique
  refine (hsorted.and hdistinct).imp ?_
  rintro a b ⟨h | ⟨h, hid⟩, hne⟩
  · exact .inl h
  · exact .inr ⟨h, lt_of_le_of_ne hid (Ne.symm hne)⟩

/-- It makes no difference whether rows are chosen before or after they are sorted. -/
theorem newestFirst_filter (unique : (rows.map (·.id)).Nodup) (q : OrderRow → Bool) :
    newestFirst (rows.filter q) = (newestFirst rows).filter q := by
  have hunique : ((rows.filter q).map (·.id)).Nodup :=
    unique.sublist (List.filter_sublist.map _)
  have hperm : (newestFirst (rows.filter q)).Perm ((newestFirst rows).filter q) :=
    newestFirst_perm.trans (newestFirst_perm.filter q).symm
  refine hperm.eq_of_pairwise ?_ (pairwise_newestFirst hunique)
    ((pairwise_newestFirst unique).filter q)
  rintro a b - - (h | ⟨h, hid⟩) (h' | ⟨h', hid'⟩)
  · exact absurd h' (Instant.lt_asymm h)
  · exact absurd h (h' ▸ Instant.lt_irrefl _)
  · exact absurd h' (h ▸ Instant.lt_irrefl _)
  · exact absurd (Int.lt_trans hid hid') (Int.lt_irrefl _)

/-- What a listing of rows comes to. A row that stands for no order is an error. -/
def listed (rows : List OrderRow) : Except Error (List Order) :=
  match rows.mapM OrderRow.order? with
  | some orders => .ok orders
  | none => .error .internal

theorem listed_map_row (orders : List Order) : listed (orders.map row) = .ok orders := by
  rw [listed, (mapM_eq_some_iff fun row order => OrderRow.order?_eq_some_iff).mpr rfl]

/-- A listing fails because of a row that stands for nothing. -/
theorem listed_eq_internal (h : ∃ row ∈ rows, row.order? = none) :
    listed rows = .error .internal := by
  obtain ⟨row, hrow, hnone⟩ := h
  rw [listed]
  split
  next orders hread =>
    rw [mapM_eq_some_iff fun row order => OrderRow.order?_eq_some_iff] at hread
    obtain ⟨order, -, rfl⟩ := List.mem_map.mp (hread ▸ hrow)
    rw [OrderRow.order?_row] at hnone
    cases hnone
  next => rfl

variable {context : Context} {p : Progress} {user : UserId} {page limit : Int}

theorem exec_readRows :
    (readRows OrderRow.order? rows).exec context p = (listed rows, p) := by
  rw [readRows, listed]
  cases rows.mapM OrderRow.order? <;> rfl

theorem exec_listAll (calm : p.fault = none) :
    listAll.exec context p = (listed (newestFirst p.tables.orders), p) := by
  have hrows : Returns (Table.orders.select fun _ => true) context p p.tables.orders p :=
    (Table.returns_select calm).mpr ⟨(List.filter_true _).symm, rfl⟩
  rw [listAll, hrows.exec_bind, exec_readRows]

/-- The rows of a user's orders, newest first. -/
def rowsOf (user : UserId) (t : Tables) : List OrderRow :=
  newestFirst (t.orders.filter fun row => row.userId = user)

/-- The rows on one page of a user's orders; pages are counted from 1. -/
def rowsOn (user : UserId) (page limit : Int) (t : Tables) : List OrderRow :=
  ((rowsOf user t).drop (offset page limit).toNat).take limit.toNat

theorem returns_requirePage (first : 1 ≤ page) :
    Returns (require (1 ≤ page) (.invalidInput "page must be at least 1")) context p () p :=
  returns_require.mpr ⟨decide_eq_true first, rfl⟩

/-- A page of a user's orders, with the number of all of them. -/
theorem exec_pageFor (calm : p.fault = none) (first : 1 ≤ page) (least : 1 ≤ limit)
    (most : limit ≤ maxPageSize) :
    (pageFor user page limit).exec context p =
      ((listed (rowsOn user page limit p.tables)).map fun orders =>
        ⟨orders, (rowsOf user p.tables).length, page, limit⟩, p) := by
  have hrows : Returns (Table.orders.select fun row => row.userId = user) context p
      (p.tables.orders.filter fun row => row.userId = user) p :=
    (Table.returns_select calm).mpr ⟨rfl, rfl⟩
  have hlist : (listFor user (offset page limit).toNat limit.toNat).exec context p =
      (listed (rowsOn user page limit p.tables), p) := by
    rw [listFor, hrows.exec_bind, exec_readRows]
    rfl
  have hcount : Returns (countFor user) context p (rowsOf user p.tables).length p :=
    returns_bind.mpr ⟨_, p, hrows, returns_pure.mpr ⟨newestFirst_perm.length_eq, rfl⟩⟩
  have hlimit : Returns (require (1 ≤ limit && limit ≤ maxPageSize)
      (.invalidInput ("limit must be between 1 and " ++ maxPageSize.repr))) context p () p :=
    returns_require.mpr ⟨by simp [least, most], rfl⟩
  rw [pageFor, (returns_requirePage first).exec_bind, hlimit.exec_bind, exec_bind, hlist]
  cases listed (rowsOn user page limit p.tables) with
  | error cause => rfl
  | ok orders => exact hcount.exec_bind

/-- There is no page before the first. -/
theorem refuses_pageFor_page (h : page < 1) :
    Refuses (pageFor user page limit) context p (.invalidInput "page must be at least 1") := by
  rw [pageFor, decide_eq_false (not_le.mpr h)]
  exact refuses_require.bind _

/-- A page has one order at least and a hundred at most. -/
theorem refuses_pageFor_limit (first : 1 ≤ page) (h : limit < 1 ∨ maxPageSize < limit) :
    Refuses (pageFor user page limit) context p
      (.invalidInput "limit must be between 1 and 100") := by
  have hlimit : (decide (1 ≤ limit) && decide (limit ≤ maxPageSize)) = false := by
    rcases h with h | h <;> simp [h]
  rw [pageFor, hlimit]
  exact (returns_requirePage first).refuses (refuses_require.bind _)

/-! The pages one after the other. -/

variable {t : Tables}

/-- How many pages so many orders take. -/
def pageCount (total : Nat) (limit : Int) : Nat :=
  (total + limit.toNat - 1) / limit.toNat

/-- The pages have room for all orders. -/
theorem le_pageCount_mul (total : Nat) (least : 1 ≤ limit) :
    total ≤ pageCount total limit * limit.toNat := by
  have hsplit := Nat.div_add_mod (total + limit.toNat - 1) limit.toNat
  have hrest := Nat.mod_lt (total + limit.toNat - 1) (show 0 < limit.toNat by omega)
  rw [Nat.mul_comm] at hsplit
  rw [pageCount]
  omega

/-- What comes before a page are the pages before it. -/
theorem toNat_offset (first : 1 ≤ page) (least : 1 ≤ limit) :
    (offset page limit).toNat = (page - 1).toNat * limit.toNat :=
  Int.toNat_mul (by omega) (by omega)

theorem offset_nonneg (first : 1 ≤ page) (least : 1 ≤ limit) : 0 ≤ offset page limit :=
  Int.mul_nonneg (by omega) (by omega)

/-- A page that has orders does not begin beyond the last of them. -/
theorem offset_lt {total : Nat} (first : 1 ≤ page) (least : 1 ≤ limit)
    (within : page ≤ pageCount total limit) : offset page limit < total := by
  have hroom : ((page - 1).toNat + 1) * limit.toNat ≤ total + limit.toNat - 1 :=
    calc ((page - 1).toNat + 1) * limit.toNat
      _ ≤ pageCount total limit * limit.toNat := Nat.mul_le_mul_right _ (by omega)
      _ ≤ total + limit.toNat - 1 := Nat.div_mul_le_self _ _
  have hskipped := toNat_offset first least
  rw [Nat.succ_mul, ← hskipped] at hroom
  omega

/-- There are no more identifiers than words of 32 bits. -/
theorem length_le_of_fits {ids : List Int} (unique : ids.Nodup)
    (narrow : ∀ id ∈ ids, Text.fitsSigned 32 id) : ids.length ≤ twoTo 32 := by
  have hwords : ids.toFinset ⊆ Finset.Ico (-(twoTo 31 : Int)) (twoTo 31) := fun id hid =>
    Finset.mem_Ico.mpr (of_decide_eq_true (narrow id (List.mem_toFinset.mp hid)))
  have hcount := Finset.card_le_card hwords
  rwa [List.toFinset_card_of_nodup unique, Int.card_Ico] at hcount

theorem length_rowsOn (first : 1 ≤ page) (least : 1 ≤ limit) :
    ((rowsOn user page limit t).length : Int) =
      min limit (max 0 ((rowsOf user t).length - offset page limit)) := by
  have hskipped := offset_nonneg first least
  rw [rowsOn, List.length_take, List.length_drop]
  omega

/-- The pages one after the other are all rows. -/
theorem flatMap_rowsOn (least : 1 ≤ limit) :
    (List.range (pageCount (rowsOf user t).length limit)).flatMap
      (fun i : Nat => rowsOn user (i + 1) limit t) = rowsOf user t := by
  have hpieces : ∀ i : Nat, rowsOn user (i + 1) limit t =
      ((rowsOf user t).drop (i * limit.toNat)).take limit.toNat := by
    intro i
    rw [rowsOn, toNat_offset (by omega) least, Int.add_sub_cancel, Int.toNat_natCast]
  simp only [hpieces]
  rw [flatMap_pieces, List.take_of_length_le (le_pageCount_mul _ least)]

theorem rowsOn_eq_nil (least : 1 ≤ limit)
    (later : (pageCount (rowsOf user t).length limit : Int) < page) :
    rowsOn user page limit t = [] := by
  have hroom := le_pageCount_mul (rowsOf user t).length least
  have hskipped : pageCount (rowsOf user t).length limit * limit.toNat ≤
      (page - 1).toNat * limit.toNat := Nat.mul_le_mul_right _ (by omega)
  rw [rowsOn, toNat_offset (by omega) least, List.drop_eq_nil_of_le (hroom.trans hskipped),
    List.take_nil]

/-- The rows on the pages of a user, `limit` to a page. -/
structure Partitioned (t : Tables) (user : UserId) (limit : Int) : Prop where
  length_eq : ∀ page : Int, 1 ≤ page → Text.fitsSigned 64 (offset page limit) →
    ((rowsOn user page limit t).length : Int) = min limit
      (max 0 ((t.orders.filter fun row => row.userId = user).length - offset page limit))
  /-- The pages one after the other are the listing of all rows without those of others. -/
  joined : (List.range (pageCount (t.orders.filter fun row => row.userId = user).length
    limit)).flatMap (fun i : Nat => rowsOn user (i + 1) limit t) =
      (newestFirst t.orders).filter fun row => row.userId = user
  /-- Those pages can be asked for: identifiers of 32 bits are too few for an offset beyond 64. -/
  offset_fits : (∀ row ∈ t.orders, Text.fitsSigned 32 row.id) → ∀ page : Int, 1 ≤ page →
    page ≤ pageCount (t.orders.filter fun row => row.userId = user).length limit →
      Text.fitsSigned 64 (offset page limit)
  later_empty : ∀ page : Int,
    pageCount (t.orders.filter fun row => row.userId = user).length limit < page →
      Text.fitsSigned 64 (offset page limit) → rowsOn user page limit t = []

theorem length_rowsOf : (rowsOf user t).length =
    (t.orders.filter fun row => row.userId = user).length :=
  newestFirst_perm.length_eq

theorem partitioned (unique : (t.orders.map (·.id)).Nodup) (user : UserId) (least : 1 ≤ limit) :
    Partitioned t user limit where
  length_eq page first _ := by
    rw [← length_rowsOf, length_rowsOn first least]
  joined := by
    rw [← length_rowsOf, flatMap_rowsOn least, rowsOf, newestFirst_filter unique]
  offset_fits narrow page first within := by
    have hlt := offset_lt first least within
    have hnonneg := offset_nonneg first least
    have howned := List.length_filter_le (fun row => row.userId = user) t.orders
    have hids := length_le_of_fits unique (List.forall_mem_map.mpr narrow)
    have hwords : twoTo 32 ≤ twoTo (64 - 1) := by decide
    rw [List.length_map] at hids
    rw [Text.fitsSigned, decide_eq_true_eq]
    omega
  later_empty page later _ := by
    rw [← length_rowsOf] at later
    exact rowsOn_eq_nil least later

/-- What the listings answer. A page whose offset fits its word answers the orders on it and the
number of all that the user has. A row that stands for no order makes the listings fail that it
would be on. -/
structure Listed (currency : String) (store : Store) (user : UserId) : Prop where
  page : ∀ {step : Step} {page limit : Int} {orders : List Order}, step.fault = none →
    step.operation? = some (.listOrders user page limit) → 1 ≤ page → 1 ≤ limit → limit ≤ 100 →
    Text.fitsSigned 64 (offset page limit) → rowsOn user page limit store.tables = orders.map row →
    (step.run currency store).answer = step.answerOf (.listOrders user page limit) (.ok (.orderPage
      ⟨orders, (store.tables.orders.filter fun row => row.userId = user).length, page, limit⟩))
  page_unread : ∀ {step : Step} {page limit : Int}, step.fault = none →
    step.operation? = some (.listOrders user page limit) → 1 ≤ page → 1 ≤ limit → limit ≤ 100 →
    Text.fitsSigned 64 (offset page limit) →
    (∃ row ∈ rowsOn user page limit store.tables, row.order? = none) →
    (step.run currency store).answer =
      step.answerOf (.listOrders user page limit) (.error .internal)
  page_refused : ∀ {step : Step} {page limit : Int},
    step.operation? = some (.listOrders user page limit) → page < 1 →
    (step.run currency store).answer = step.answerOf (.listOrders user page limit)
      (.error (.invalidInput "page must be at least 1"))
  limit_refused : ∀ {step : Step} {page limit : Int},
    step.operation? = some (.listOrders user page limit) → 1 ≤ page → limit < 1 ∨ 100 < limit →
    (step.run currency store).answer = step.answerOf (.listOrders user page limit)
      (.error (.invalidInput "limit must be between 1 and 100"))
  all : ∀ {step : Step} {orders : List Order}, step.fault = none →
    step.operation? = some .listAllOrders → newestFirst store.tables.orders = orders.map row →
    (step.run currency store).answer = step.answerOf .listAllOrders (.ok (.orders orders))
  all_unread : ∀ {step : Step}, step.fault = none → step.operation? = some .listAllOrders →
    (∃ row ∈ store.tables.orders, row.order? = none) →
    (step.run currency store).answer = step.answerOf .listAllOrders (.error .internal)

theorem answer_page (currency : String) {step : Step} {store : Store} (calm : step.fault = none)
    (asked : step.operation? = some (.listOrders user page limit)) (first : 1 ≤ page)
    (least : 1 ≤ limit) (most : limit ≤ maxPageSize) :
    (step.run currency store).answer = step.answerOf (.listOrders user page limit)
      ((listed (rowsOn user page limit store.tables)).map fun orders => .orderPage ⟨orders,
        (store.tables.orders.filter fun row => row.userId = user).length, page, limit⟩) := by
  rw [Step.answer_of_operation currency store asked, Operation.perform, exec_map,
    exec_pageFor calm first least most, ← length_rowsOf]
  cases h : listed (rowsOn user page limit store.tables) with
  | error cause => simp only [Step.start, h]; rfl
  | ok orders => simp only [Step.start, h]; rfl

theorem answer_all (currency : String) {step : Step} {store : Store} (calm : step.fault = none)
    (asked : step.operation? = some .listAllOrders) :
    (step.run currency store).answer = step.answerOf .listAllOrders
      ((listed (newestFirst store.tables.orders)).map .orders) := by
  rw [Step.answer_of_operation currency store asked, Operation.perform, exec_map,
    exec_listAll calm]
  cases h : listed (newestFirst store.tables.orders) with
  | error cause => simp only [Step.start, h]; rfl
  | ok orders => simp only [Step.start, h]; rfl

theorem listed_listings (currency : String) (store : Store) (user : UserId) :
    Listed currency store user where
  page calm asked first least most _ hrows := by
    rw [answer_page currency calm asked first least most, hrows, listed_map_row]
    rfl
  page_unread calm asked first least most _ hrows := by
    rw [answer_page currency calm asked first least most, listed_eq_internal hrows]
    rfl
  page_refused asked h :=
    (Step.run_of_refuses currency asked ((refuses_pageFor_page h).map _)).1
  limit_refused asked first h :=
    (Step.run_of_refuses currency asked ((refuses_pageFor_limit first h).map _)).1
  all calm asked hrows := by
    rw [answer_all currency calm asked, hrows, listed_map_row]
    rfl
  all_unread calm asked hrows := by
    obtain ⟨row, hrow, hnone⟩ := hrows
    have hlisted : row ∈ newestFirst store.tables.orders := newestFirst_perm.mem_iff.mpr hrow
    rw [answer_all currency calm asked, listed_eq_internal ⟨row, hlisted, hnone⟩]
    rfl

end Order

/-- The pages of a user's orders, one after the other, are the user's part of the listing of all
orders: each order once, newest first, and none on two pages. -/
theorem pages_partition (currency : String) {store : Store} (user : UserId)
    (unique : (store.tables.orders.map (·.id)).Nodup) :
    Order.Listed currency store user ∧
      (∀ limit, 1 ≤ limit → limit ≤ 100 → Order.Partitioned store.tables user limit) ∧
      ((Order.newestFirst store.tables.orders).filter fun row => row.userId = user).Perm
        (store.tables.orders.filter fun row => row.userId = user) ∧
      ((Order.newestFirst store.tables.orders).filter fun row => row.userId = user).Pairwise
        OrderRow.Precedes :=
  ⟨Order.listed_listings currency store user,
    fun _ least _ => Order.partitioned unique user least,
    Order.newestFirst_perm.filter _,
    (Order.pairwise_newestFirst unique).filter _⟩

/-- Three orders of user 7, two of them of one instant, and one of user 8. -/
def Store.busy : Store :=
  { Store.stocked with tables := { Store.stocked.tables with
    orders := [⟨⟨1, 7, 100, 0, 100, none, none, ⟨5, 0⟩, ⟨5, 0⟩⟩, "pending", "cod", "pending"⟩,
      ⟨⟨2, 7, 200, 0, 200, none, none, ⟨9, 0⟩, ⟨9, 0⟩⟩, "pending", "stripe", "pending"⟩,
      ⟨⟨3, 8, 300, 0, 300, none, none, ⟨9, 0⟩, ⟨9, 0⟩⟩, "pending", "cod", "pending"⟩,
      ⟨⟨4, 7, 400, 0, 400, none, none, ⟨9, 0⟩, ⟨9, 0⟩⟩, "shipped", "cod", "pending"⟩] } }

theorem pages_busy :
    (Store.busy.tables.orders.map (·.id)).Nodup ∧
      ((Step.ofCall (.listOrders 7 1 2)).run "INR" .busy).answer = .reply (.ok (.orderPage
        ⟨[⟨⟨4, 7, 400, 0, 400, none, none, ⟨9, 0⟩, ⟨9, 0⟩⟩, .shipped, .cod, .pending⟩,
          ⟨⟨2, 7, 200, 0, 200, none, none, ⟨9, 0⟩, ⟨9, 0⟩⟩, .pending, .stripe, .pending⟩],
          3, 1, 2⟩)) ∧
      (Order.rowsOn 7 2 2 Store.busy.tables).map (·.id) = [1] ∧
      Order.rowsOn 7 3 2 Store.busy.tables = [] := by
  have hunique : (Store.busy.tables.orders.map (·.id)).Nodup := by decide
  obtain ⟨hlisted, hpages, -, -⟩ := pages_partition "INR" 7 hunique
  refine ⟨hunique, hlisted.page rfl rfl (by decide) (by decide) (by decide) (by decide)
    (by decide +kernel), by decide, ?_⟩
  exact (hpages 2 (by decide) (by decide)).later_empty 3 (by decide) (by decide)

/-- An order of user 7 in a state that nothing is known of. -/
def Store.archived : Store :=
  { Store.stocked with tables := { Store.stocked.tables with
    orders := [⟨⟨1, 7, 100, 0, 100, none, none, ⟨5, 0⟩, ⟨5, 0⟩⟩, "archived", "cod", "pending"⟩] } }

/-- Not every order is found on a page: one in an unknown state makes the listing fail. -/
theorem pages_unread :
    ¬ ∀ (store : Store) (user : UserId) (page limit : Int), store.tables.Constrained →
      1 ≤ page → 1 ≤ limit → limit ≤ 100 → Text.fitsSigned 64 (Order.offset page limit) →
      ∃ found : OrderPage, ((Step.ofCall (.listOrders user page limit)).run "INR" store).answer =
          .reply (.ok (.orderPage found)) ∧
        (found.orders.length : Int) =
          min limit (max 0 (found.total - Order.offset page limit)) := by
  intro h
  have hconstrained : Store.archived.tables.Constrained := by
    constructor <;> simp +decide
  obtain ⟨found, hanswer, -⟩ :=
    h .archived 7 1 10 hconstrained (by decide) (by decide) (by decide) (by decide)
  have hunread : ((Step.ofCall (.listOrders 7 1 10)).run "INR" .archived).answer =
      .reply (.error .internal) :=
    (Order.listed_listings "INR" .archived 7).page_unread rfl rfl (by decide) (by decide)
      (by decide) (by decide) ⟨_, List.mem_singleton_self _, by decide +kernel⟩
  rw [hunread] at hanswer
  cases hanswer

end Storefront
