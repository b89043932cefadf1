import Storefront.Proofs.Session.Atomicity

/-!
Why a session fails. Each way to build a session has an equivalence that says with which error it
ends, so that the first thing that goes wrong is read off in the order of the statements. Those of
statements are for a session that meets no fault.
-/

namespace Storefront
namespace Session

variable {α β ρ : Type} {context : Context} {p p' : Progress} {cause : Error}

/-- The session ends in the given error. -/
def Fails (session : Session α) (context : Context) (p : Progress) (cause : Error) : Prop :=
  (session.exec context p).1 = .error cause

/-- A session ends well or in an error. -/
theorem succeeds_or_fails (session : Session α) (context : Context) (p : Progress) :
    Succeeds session context p ∨ ∃ cause, Fails session context p cause := by
  rcases h : session.exec context p with ⟨cause | a, after⟩
  · exact .inr ⟨cause, congrArg Prod.fst h⟩
  · exact .inl ⟨a, after, h⟩

theorem Succeeds.not_fails {session : Session α} (h : Succeeds session context p) :
    ¬ Fails session context p cause := by
  obtain ⟨a, after, h⟩ := h
  simp [Fails, show session.exec context p = _ from h]

theorem Total.not_fails {session : Session α} (h : Total session) :
    ¬ Fails session context p cause :=
  Succeeds.not_fails (h context p)

@[simp] theorem not_fails_pure {a : α} : ¬ Fails (pure a) context p cause :=
  (total_pure a).not_fails

@[simp] theorem fails_throw {thrown : Error} :
    Fails (throw thrown : Session α) context p cause ↔ cause = thrown := by
  simp [Fails, eq_comm]

/-- A session fails in its first part, or in what follows it. -/
@[simp] theorem fails_bind {first : Session α} {next : α → Session β} :
    Fails (first >>= next) context p cause ↔
      Fails first context p cause ∨
        ∃ a middle, Returns first context p a middle ∧ Fails (next a) context middle cause := by
  simp only [Fails, Returns, exec_bind]
  rcases first.exec context p with ⟨_ | a, middle⟩
  · simp
  · simp

/-- A session that goes on from where its first part returned fails in what follows. -/
theorem Returns.fails_bind {first : Session α} {next : α → Session β} {a : α}
    (hfirst : Returns first context p a p') :
    Fails (first >>= next) context p cause ↔ Fails (next a) context p' cause := by
  unfold Fails
  rw [hfirst.exec_bind]

/-- A session fails in its first part if what follows never does. -/
theorem fails_bind_total {first : Session α} {next : α → Session β} (hnext : ∀ a, Total (next a)) :
    Fails (first >>= next) context p cause ↔ Fails first context p cause := by
  rw [Session.fails_bind, or_iff_left_iff_imp]
  rintro ⟨a, middle, -, h⟩
  exact absurd h (hnext a).not_fails

@[simp] theorem fails_map {f : α → β} {session : Session α} :
    Fails (f <$> session) context p cause ↔ Fails session context p cause := by
  simp only [Fails, exec_map]
  rcases session.exec context p with ⟨_ | a, after⟩ <;> simp

@[simp] theorem fails_discard {session : Session α} :
    Fails (discard session) context p cause ↔ Fails session context p cause :=
  fails_map

@[simp] theorem fails_transaction {body : Session α} :
    Fails (transaction body) context p cause ↔ Fails body context p cause := by
  simp only [Fails, exec_transaction]
  rcases body.exec context p with ⟨_ | a, after⟩ <;> simp

@[simp] theorem fails_found {missing : Error} {found? : Option α} :
    Fails (found missing found?) context p cause ↔ found? = none ∧ cause = missing := by
  cases found? <;> simp [found]

@[simp] theorem fails_require {holds : Bool} {refusal : Error} :
    Fails (require holds refusal) context p cause ↔ holds = false ∧ cause = refusal := by
  cases holds <;> simp [require]

theorem fails_bind_found {missing : Error} {found? : Option α} {next : α → Session β} :
    Fails (found missing found? >>= next) context p cause ↔
      (found? = none ∧ cause = missing) ∨
        ∃ a, found? = some a ∧ Fails (next a) context p cause := by
  cases found? <;> simp

theorem fails_bind_require {holds : Bool} {refusal : Error} {next : Unit → Session β} :
    Fails (require holds refusal >>= next) context p cause ↔
      (holds = false ∧ cause = refusal) ∨ holds = true ∧ Fails (next ()) context p cause := by
  cases holds with
  | false => simp
  | true =>
    rw [((returns_require (u := ())).mpr ⟨rfl, rfl⟩).fails_bind]
    simp

@[simp] theorem fails_constraint {holds : Bool} :
    Fails (constraint holds) context p cause ↔ holds = false ∧ cause = .internal :=
  fails_require

@[simp] theorem fails_ofExcept {outcome : Except Error α} :
    Fails (ofExcept outcome) context p cause ↔ outcome = .error cause := by
  cases outcome <;> simp [ofExcept, eq_comm]

/-! Reading the surroundings, and what changes the store without a statement, never fails. -/

@[simp] theorem not_fails_tables : ¬ Fails tables context p cause :=
  (returns_tables.mpr ⟨rfl, rfl⟩).succeeds.not_fails

@[simp] theorem not_fails_sequences : ¬ Fails sequences context p cause :=
  (returns_sequences.mpr ⟨rfl, rfl⟩).succeeds.not_fails

@[simp] theorem not_fails_storeTime : ¬ Fails storeTime context p cause :=
  (returns_storeTime.mpr ⟨rfl, rfl⟩).succeeds.not_fails

@[simp] theorem not_fails_wallTime : ¬ Fails wallTime context p cause :=
  (returns_wallTime.mpr ⟨rfl, rfl⟩).succeeds.not_fails

@[simp] theorem not_fails_modifyTables {f : Tables → Tables} :
    ¬ Fails (modifyTables f) context p cause :=
  (total_modifyTables f).not_fails

@[simp] theorem not_fails_modifySequences {f : Sequences → Sequences} :
    ¬ Fails (modifySequences f) context p cause :=
  (total_modifySequences f).not_fails

@[simp] theorem not_fails_statement {verb : Verb} {table : TableName} (calm : p.fault = none) :
    ¬ Fails (statement verb table) context p cause :=
  ((returns_statement (u := ()) calm).mpr rfl).succeeds.not_fails

/-- Of sessions that run one after the other, the first that fails ends them. -/
theorem fails_mapM {f : α → Session β} {xs : List α} :
    Fails (xs.mapM f) context p cause ↔
      ∃ before x after ys middle, xs = before ++ x :: after ∧
        Returns (before.mapM f) context p ys middle ∧ Fails (f x) context middle cause := by
  induction xs generalizing p with
  | nil => simp
  | cons first rest ih =>
    simp only [List.mapM_cons, fails_bind, not_fails_pure, and_false, exists_false, or_false, ih]
    constructor
    · rintro (hfirst | ⟨y, middle, hfirst, before, x, after, ys, last, rfl, hbefore, hx⟩)
      · exact ⟨[], first, rest, [], p, rfl, returns_mapM_nil.mpr ⟨rfl, rfl⟩, hfirst⟩
      · exact ⟨first :: before, x, after, y :: ys, last, rfl,
          returns_mapM_cons.mpr ⟨y, middle, ys, hfirst, hbefore, rfl⟩, hx⟩
    · rintro ⟨before, x, after, ys, last, hsplit, hbefore, hx⟩
      cases before with
      | nil =>
        obtain ⟨rfl, rfl⟩ := List.cons.inj hsplit
        obtain ⟨-, rfl⟩ := returns_mapM_nil.mp hbefore
        exact .inl hx
      | cons other before =>
        obtain ⟨rfl, rfl⟩ := List.cons.inj hsplit
        obtain ⟨y, middle, tail, hfirst, hrest, -⟩ := returns_mapM_cons.mp hbefore
        exact .inr ⟨y, middle, hfirst, before, x, after, tail, last, rfl, hrest, hx⟩

/-- Reading rows that all stand for something never fails. -/
theorem not_fails_readRows {read? : ρ → Option α} {rows : List ρ}
    (h : ∀ row ∈ rows, (read? row).isSome) : ¬ Fails (readRows read? rows) context p cause := by
  suffices hrows : (rows.mapM read?).isSome by
    intro hfails
    obtain ⟨hnone, -⟩ := fails_found.mp hfails
    simp [hnone] at hrows
  induction rows with
  | nil => rfl
  | cons row rest ih =>
    obtain ⟨hrow, hrest⟩ := List.forall_mem_cons.mp h
    obtain ⟨a, ha⟩ := Option.isSome_iff_exists.mp hrow
    obtain ⟨as, has⟩ := Option.isSome_iff_exists.mp (ih hrest)
    simp [ha, has]

end Session

namespace Table

open Session

variable {α : Type} {table : Table α} {context : Context} {p : Progress} {cause : Error}

@[simp] theorem not_fails_select {q : α → Bool} (calm : p.fault = none) :
    ¬ Fails (table.select q) context p cause :=
  ((returns_select calm).mpr ⟨rfl, rfl⟩).succeeds.not_fails

@[simp] theorem not_fails_selectFirst {q : α → Bool} (calm : p.fault = none) :
    ¬ Fails (table.selectFirst q) context p cause :=
  ((returns_selectFirst calm).mpr ⟨rfl, rfl⟩).succeeds.not_fails

@[simp] theorem fails_insert {admitted : Tables → Bool} {rows : List α}
    {take : Sequences → Sequences} (calm : p.fault = none) :
    Fails (table.insert admitted rows take) context p cause ↔
      admitted p.tables = false ∧ cause = .internal := by
  simp [insert, calm]

@[simp] theorem fails_update {q : α → Bool} {f : α → α} {admitted : Tables → α → Bool}
    (calm : p.fault = none) :
    Fails (table.update q f admitted) context p cause ↔
      ((table.rows p.tables).find? q = none ∧ cause = .notFound) ∨
        ∃ old, (table.rows p.tables).find? q = some old ∧ admitted p.tables (f old) = false ∧
          cause = .internal := by
  simp [update, calm]

end Table
end Storefront
