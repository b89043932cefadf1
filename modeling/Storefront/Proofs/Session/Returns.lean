import Mathlib.Tactic.Common
import Storefront.Store.Table

/-!
What a session does when it ends well. Each way to build a session has an equivalence that says with
which value and in which state it returns, so that a session is read off statement by statement.
Those of statements are for a session that meets no fault.
-/

namespace Storefront
namespace Session

variable {α β ρ : Type} {context : Context} {p p' : Progress}

/-- What is made of the value of a session makes no difference to its progress. -/
theorem exec_map_snd (f : α → β) (session : Session α) (context : Context) (p : Progress) :
    ((f <$> session).exec context p).2 = (session.exec context p).2 := by
  rw [exec_map]
  rcases session.exec context p with ⟨_ | a, after⟩ <;> rfl

/-- The session ends well, with the value `a` and the progress `p'`. -/
def Returns (session : Session α) (context : Context) (p : Progress) (a : α) (p' : Progress) :
    Prop :=
  session.exec context p = (.ok a, p')

@[simp] theorem returns_pure {a b : α} :
    Returns (pure a) context p b p' ↔ b = a ∧ p' = p := by
  simp [Returns, eq_comm]

@[simp] theorem not_returns_throw {cause : Error} {a : α} :
    ¬ Returns (throw cause) context p a p' := by
  simp [Returns]

@[simp] theorem returns_bind {first : Session α} {next : α → Session β} {b : β} :
    Returns (first >>= next) context p b p' ↔
      ∃ a middle, Returns first context p a middle ∧ Returns (next a) context middle b p' := by
  simp only [Returns, exec_bind]
  rcases first.exec context p with ⟨_ | a, middle⟩
  · simp
  · simp

@[simp] theorem returns_map {f : α → β} {session : Session α} {b : β} :
    Returns (f <$> session) context p b p' ↔
      ∃ a, Returns session context p a p' ∧ b = f a := by
  simp only [Returns, exec_map]
  rcases session.exec context p with ⟨_ | a, after⟩
  · simp
  · simp [and_comm, eq_comm]

@[simp] theorem returns_discard {session : Session α} {u : PUnit} :
    Returns (discard session) context p u p' ↔ ∃ a, Returns session context p a p' := by
  have h : discard session = (fun _ => PUnit.unit) <$> session := rfl
  simp [h]

@[simp] theorem returns_read {a : Context} :
    Returns read context p a p' ↔ a = context ∧ p' = p := by
  have h : (read : Session Context).exec context p = (.ok context, p) := rfl
  simp [Returns, h, eq_comm]

@[simp] theorem returns_tables {t : Tables} :
    Returns tables context p t p' ↔ t = p.tables ∧ p' = p := by
  have h : tables.exec context p = (.ok p.tables, p) := rfl
  simp [Returns, h, eq_comm]

@[simp] theorem returns_sequences {s : Sequences} :
    Returns sequences context p s p' ↔ s = p.sequences ∧ p' = p := by
  have h : sequences.exec context p = (.ok p.sequences, p) := rfl
  simp [Returns, h, eq_comm]

@[simp] theorem returns_storeTime {now : Instant} :
    Returns storeTime context p now p' ↔ now = context.clock.store ∧ p' = p := by
  simp [storeTime, and_comm]

@[simp] theorem returns_wallTime {now : Instant} :
    Returns wallTime context p now p' ↔ now = context.clock.wall ∧ p' = p := by
  simp [wallTime, and_comm]

theorem returns_bind_storeTime {next : Instant → Session β} {b : β} :
    Returns (storeTime >>= next) context p b p' ↔
      Returns (next context.clock.store) context p b p' := by
  simp [and_assoc]

theorem returns_bind_wallTime {next : Instant → Session β} {b : β} :
    Returns (wallTime >>= next) context p b p' ↔
      Returns (next context.clock.wall) context p b p' := by
  simp [and_assoc]

@[simp] theorem returns_modifyTables {f : Tables → Tables} {u : Unit} :
    Returns (modifyTables f) context p u p' ↔ p' = { p with tables := f p.tables } := by
  have h : (modifyTables f).exec context p = (.ok (), { p with tables := f p.tables }) := rfl
  simp [Returns, h, eq_comm]

@[simp] theorem returns_modifySequences {f : Sequences → Sequences} {u : Unit} :
    Returns (modifySequences f) context p u p' ↔
      p' = { p with sequences := f p.sequences } := by
  have h : (modifySequences f).exec context p =
    (.ok (), { p with sequences := f p.sequences }) := rfl
  simp [Returns, h, eq_comm]

@[simp] theorem returns_announce {event : Event} {u : Unit} :
    Returns (announce event) context p u p' ↔ p' = { p with events := p.events ++ [event] } := by
  have h : (announce event).exec context p =
    (.ok (), { p with events := p.events ++ [event] }) := rfl
  simp [Returns, h, eq_comm]

/-- A session that is announced once it has returned. -/
theorem returns_announced {session : Session α} {event : α → Event} {f : α → β} {b : β} :
    Returns (session >>= fun a => announce (event a) >>= fun _ => pure (f a)) context p b p' ↔
      ∃ a middle, Returns session context p a middle ∧ b = f a ∧
        p' = { middle with events := middle.events ++ [event a] } := by
  simp only [returns_bind, returns_announce, returns_pure, exists_eq_left, exists_const]

@[simp] theorem returns_recordStock {stock : Int} {u : Unit} :
    Returns (recordStock stock) context p u p' ↔
      p' = { p with overflowed := p.overflowed || !Text.fitsSigned 32 stock } := by
  have h : (recordStock stock).exec context p =
    (.ok (), { p with overflowed := p.overflowed || !Text.fitsSigned 32 stock }) := rfl
  simp [Returns, h, eq_comm]

@[simp] theorem returns_ofExcept {outcome : Except Error α} {a : α} :
    Returns (ofExcept outcome) context p a p' ↔ outcome = .ok a ∧ p' = p := by
  cases outcome with
  | error cause => simp [ofExcept]
  | ok b => simp [ofExcept, eq_comm]

@[simp] theorem returns_found {cause : Error} {found? : Option α} {a : α} :
    Returns (found cause found?) context p a p' ↔ found? = some a ∧ p' = p := by
  cases found? with
  | none => simp [found]
  | some b => simp [found, eq_comm]

@[simp] theorem returns_require {holds : Bool} {cause : Error} {u : Unit} :
    Returns (require holds cause) context p u p' ↔ holds = true ∧ p' = p := by
  cases holds <;> simp [require]

@[simp] theorem returns_constraint {holds : Bool} {u : Unit} :
    Returns (constraint holds) context p u p' ↔ holds = true ∧ p' = p :=
  returns_require

@[simp] theorem returns_transaction {body : Session α} {a : α} :
    Returns (transaction body) context p a p' ↔ Returns body context p a p' := by
  simp only [Returns, exec_transaction]
  rcases body.exec context p with ⟨_ | b, after⟩ <;> simp

@[simp] theorem returns_attempt {body : Session α} {outcome : Except Error α} :
    Returns (attempt body) context p outcome p' ↔ body.exec context p = (outcome, p') := by
  simp [Returns, Prod.ext_iff]

@[simp] theorem returns_forM_nil {f : α → Session PUnit} {u : PUnit} :
    Returns (forM [] f) context p u p' ↔ p' = p := by
  simp

@[simp] theorem returns_forM_cons {f : α → Session PUnit} {x : α} {rest : List α} {u : PUnit} :
    Returns (forM (x :: rest) f) context p u p' ↔
      ∃ middle, Returns (f x) context p ⟨⟩ middle ∧ Returns (forM rest f) context middle ⟨⟩ p' := by
  simp only [List.forM_cons, returns_bind]
  constructor
  · rintro ⟨⟨⟩, middle, h⟩
    exact ⟨middle, h⟩
  · rintro ⟨middle, h⟩
    exact ⟨⟨⟩, middle, h⟩

/-- Checks made one after the other all have to hold. -/
theorem returns_forM_reading {f : α → Session PUnit} {holds : α → Prop}
    (h : ∀ x p', Returns (f x) context p ⟨⟩ p' ↔ holds x ∧ p' = p) {xs : List α} {u : PUnit} :
    Returns (forM xs f) context p u p' ↔ (∀ x ∈ xs, holds x) ∧ p' = p := by
  induction xs with
  | nil => simp
  | cons x rest ih =>
    rw [returns_forM_cons, List.forall_mem_cons]
    constructor
    · rintro ⟨middle, hone, hrest⟩
      obtain ⟨hx, rfl⟩ := (h x middle).mp hone
      obtain ⟨hall, rfl⟩ := ih.mp hrest
      exact ⟨⟨hx, hall⟩, rfl⟩
    · rintro ⟨⟨hx, hall⟩, rfl⟩
      exact ⟨_, (h x _).mpr ⟨hx, rfl⟩, ih.mpr ⟨hall, rfl⟩⟩

theorem returns_mapM_nil {f : α → Session β} {ys : List β} :
    Returns ([].mapM f) context p ys p' ↔ ys = [] ∧ p' = p := by
  simp

theorem returns_mapM_cons {f : α → Session β} {x : α} {rest : List α} {ys : List β} :
    Returns ((x :: rest).mapM f) context p ys p' ↔
      ∃ y middle tail, Returns (f x) context p y middle ∧
        Returns (rest.mapM f) context middle tail p' ∧ ys = y :: tail := by
  simp only [List.mapM_cons, returns_bind, returns_pure]
  constructor
  · rintro ⟨y, middle, hy, tail, _, hrest, rfl, rfl⟩
    exact ⟨y, middle, tail, hy, hrest, rfl⟩
  · rintro ⟨y, middle, tail, hy, hrest, rfl⟩
    exact ⟨y, middle, hy, tail, p', hrest, rfl, rfl⟩

/-- Reading a row returns what the row stands for. -/
theorem returns_readFound {read? : ρ → Option α} {row : α → ρ}
    (h : ∀ x a, read? x = some a ↔ x = row a) {found? : Option ρ} {a? : Option α} :
    Returns (readFound read? found?) context p a? p' ↔ found? = a?.map row ∧ p' = p := by
  cases found? with
  | none => cases a? <;> simp [readFound]
  | some x => cases a? <;> simp [readFound, h]

theorem mapM_eq_some_iff {read? : ρ → Option α} {row : α → ρ}
    (h : ∀ x a, read? x = some a ↔ x = row a) {rows : List ρ} {as : List α} :
    rows.mapM read? = some as ↔ rows = as.map row := by
  induction rows generalizing as with
  | nil => simp [eq_comm]
  | cons x rest ih =>
    simp only [List.mapM_cons, Option.bind_eq_bind, Option.bind_eq_some_iff, ih, h, Option.pure_def,
      Option.some.injEq]
    cases as with
    | nil => simp
    | cons a as => simp

theorem returns_readRows {read? : ρ → Option α} {row : α → ρ}
    (h : ∀ x a, read? x = some a ↔ x = row a) {rows : List ρ} {as : List α} :
    Returns (readRows read? rows) context p as p' ↔ rows = as.map row ∧ p' = p := by
  simp [readRows, mapM_eq_some_iff h]

/-- A statement only counts down the fault that it is about, and fails when that fires. -/
theorem exec_statement (verb : Verb) (table : TableName) :
    (statement verb table).exec context p =
      match p.fault with
      | none => (.ok (), p)
      | some fault =>
        if fault.verb = verb ∧ fault.table = table then
          if fault.nth = 1 then (.error .internal, { p with fault := none })
          else (.ok (), { p with fault := some { fault with nth := fault.nth - 1 } })
        else (.ok (), p) := by
  have h : (statement verb table).exec context p = (match p.fault with
      | none => pure ()
      | some fault =>
        if fault.verb = verb ∧ fault.table = table then
          if fault.nth = 1 then do
            modify fun p => { p with fault := none }
            throw .internal
          else modify fun p => { p with fault := some { fault with nth := fault.nth - 1 } }
        else pure () : Session Unit).exec context p := rfl
  rw [h]
  split
  · rfl
  · split_ifs <;> rfl

@[simp] theorem returns_statement {verb : Verb} {table : TableName} {u : Unit}
    (calm : p.fault = none) : Returns (statement verb table) context p u p' ↔ p' = p := by
  simp [Returns, exec_statement, calm, eq_comm]

/-- The session ends well. -/
def Succeeds (session : Session α) (context : Context) (p : Progress) : Prop :=
  ∃ a p', Returns session context p a p'

theorem Returns.succeeds {session : Session α} {a : α} (h : Returns session context p a p') :
    Succeeds session context p :=
  ⟨a, p', h⟩

/-- A session goes on from where its first part returned. -/
theorem Returns.exec_bind {first : Session α} {next : α → Session β} {a : α}
    (hfirst : Returns first context p a p') :
    (first >>= next).exec context p = (next a).exec context p' := by
  rw [Session.exec_bind, hfirst]

theorem Returns.bind_iff {first : Session α} {next : α → Session β} {a : α} {b : β}
    {last : Progress} (hfirst : Returns first context p a p') :
    Returns (first >>= next) context p b last ↔ Returns (next a) context p' b last := by
  unfold Returns
  rw [hfirst.exec_bind]

/-- A session ends well if what follows its first part does. -/
theorem Returns.bind {first : Session α} {next : α → Session β} {a : α}
    (hfirst : Returns first context p a p') (hnext : Succeeds (next a) context p') :
    Succeeds (first >>= next) context p := by
  obtain ⟨b, last, hlast⟩ := hnext
  exact ⟨b, last, returns_bind.mpr ⟨a, p', hfirst, hlast⟩⟩

theorem succeeds_pure (a : α) : Succeeds (pure a) context p :=
  ⟨a, p, returns_pure.mpr ⟨rfl, rfl⟩⟩

theorem Succeeds.discard {session : Session α} (h : Succeeds session context p) :
    Succeeds (discard session) context p := by
  obtain ⟨a, last, hlast⟩ := h
  exact ⟨⟨⟩, last, returns_discard.mpr ⟨a, hlast⟩⟩

theorem Succeeds.announced {session : Session α} {event : α → Event} {f : α → β}
    (h : Succeeds session context p) :
    Succeeds (session >>= fun a => announce (event a) >>= fun _ => pure (f a)) context p := by
  obtain ⟨a, last, hlast⟩ := h
  exact ⟨f a, _, returns_announced.mpr ⟨a, last, hlast, rfl, rfl⟩⟩

theorem Succeeds.transaction {body : Session α} (h : Succeeds body context p) :
    Succeeds (transaction body) context p := by
  obtain ⟨a, last, hlast⟩ := h
  exact ⟨a, last, returns_transaction.mpr hlast⟩

/-- The session ends in an error, and nothing has changed. -/
def Refuses (session : Session α) (context : Context) (p : Progress) (cause : Error) : Prop :=
  session.exec context p = (.error cause, p)

theorem refuses_found {cause : Error} : Refuses (found cause (none : Option α)) context p cause :=
  rfl

theorem refuses_require {cause : Error} : Refuses (require false cause) context p cause :=
  rfl

theorem Refuses.bind {first : Session α} {cause : Error} (h : Refuses first context p cause)
    (next : α → Session β) : Refuses (first >>= next) context p cause := by
  rw [Refuses, exec_bind, h]

theorem Refuses.map {session : Session α} {cause : Error} (h : Refuses session context p cause)
    (f : α → β) : Refuses (f <$> session) context p cause := by
  rw [Refuses, exec_map, h]

theorem Refuses.transaction {body : Session α} {cause : Error} (h : Refuses body context p cause) :
    Refuses (transaction body) context p cause := by
  rw [Refuses, exec_transaction, h]

/-- A session refuses if what follows its first part does, and that part only reads. -/
theorem Returns.refuses {first : Session α} {next : α → Session β} {a : α} {cause : Error}
    (hfirst : Returns first context p a p) (hnext : Refuses (next a) context p cause) :
    Refuses (first >>= next) context p cause := by
  rw [Refuses, hfirst.exec_bind]
  exact hnext

end Session

namespace Table

open Session

variable {α : Type} {table : Table α} {context : Context} {p p' : Progress}

@[simp] theorem returns_select {q : α → Bool} {rows : List α} (calm : p.fault = none) :
    Returns (table.select q) context p rows p' ↔
      rows = (table.rows p.tables).filter q ∧ p' = p := by
  simp [select, calm, and_comm]

@[simp] theorem returns_selectFirst {q : α → Bool} {row : Option α} (calm : p.fault = none) :
    Returns (table.selectFirst q) context p row p' ↔
      row = (table.rows p.tables).find? q ∧ p' = p := by
  simp [selectFirst, calm, and_comm]

@[simp] theorem returns_insert {admitted : Tables → Bool} {rows : List α}
    {take : Sequences → Sequences} {u : Unit} (calm : p.fault = none) :
    Returns (table.insert admitted rows take) context p u p' ↔
      admitted p.tables = true ∧
        p' = { p with
          sequences := take p.sequences
          tables := table.modifyRows (· ++ rows) p.tables } := by
  simp [insert, calm]

@[simp] theorem returns_update {q : α → Bool} {f : α → α} {admitted : Tables → α → Bool} {row : α}
    (calm : p.fault = none) :
    Returns (table.update q f admitted) context p row p' ↔
      ∃ old, (table.rows p.tables).find? q = some old ∧ admitted p.tables (f old) = true ∧
        p' = { p with tables := table.modifyRows (updateWhere q f) p.tables } ∧ row = f old := by
  simp [update, calm]

@[simp] theorem returns_delete {q : α → Bool} {u : Unit} (calm : p.fault = none) :
    Returns (table.delete q) context p u p' ↔
      p' = { p with
        tables := table.modifyRows (·.filter fun row => !q row) p.tables } := by
  simp [delete, calm]

end Table
end Storefront
