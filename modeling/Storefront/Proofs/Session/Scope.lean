import Storefront.Proofs.Session.Returns

/-!
How far a session may reach. Sessions are built from reads of the clock and of the store, from
statements and from a few kinds of changes; a scope says which kinds. Two laws hold of every session
that is built so: what is out of its scope stays as it is, and a fault either makes the session fail
or leaves no trace in what it does.
-/

namespace Storefront

namespace Progress

/-- The same progress with no fault to come. -/
def calm (p : Progress) : Progress :=
  { p with fault := none }

@[simp] theorem tables_calm (p : Progress) : p.calm.tables = p.tables := rfl

theorem calm_eq_self {p : Progress} (h : p.fault = none) : p.calm = p := by
  cases p
  cases h
  rfl

end Progress

namespace Session

/-- What a session may do besides reading; each scope includes those before it. -/
inductive Scope where
  | reading
  | writing
  | restocking
  | announcing
  deriving DecidableEq

namespace Scope

def rank : Scope → Nat
  | .reading => 0
  | .writing => 1
  | .restocking => 2
  | .announcing => 3

class Covers (wide narrow : Scope) : Prop where
  rank_le : narrow.rank ≤ wide.rank

instance (scope : Scope) : Scope.announcing.Covers scope := ⟨by cases scope <;> decide⟩

instance : Scope.writing.Covers .writing := ⟨Nat.le_refl _⟩

instance : Scope.restocking.Covers .writing := ⟨by decide⟩

instance : Scope.restocking.Covers .restocking := ⟨Nat.le_refl _⟩

end Scope

variable {α β ρ : Type} {scope : Scope}

/-- The session is built from what its scope admits. -/
class inductive Within (scope : Scope) : {α : Type} → Session α → Prop
  | pure {α : Type} (a : α) : Within scope (pure a)
  | throw {α : Type} (cause : Error) : Within scope (throw cause : Session α)
  | bind {α β : Type} {first : Session α} {next : α → Session β} (hfirst : Within scope first)
      (hnext : ∀ a, Within scope (next a)) : Within scope (first >>= next)
  | read : Within scope read
  | tables : Within scope tables
  | sequences : Within scope sequences
  | statement (verb : Verb) (table : TableName) : Within scope (statement verb table)
  | transaction {α : Type} {body : Session α} (h : Within scope body) :
      Within scope (transaction body)
  | modifyTables (f : Tables → Tables) (h : scope.Covers .writing) : Within scope (modifyTables f)
  | modifySequences (f : Sequences → Sequences) (h : scope.Covers .writing) :
      Within scope (modifySequences f)
  | recordStock (stock : Int) (h : scope.Covers .restocking) : Within scope (recordStock stock)
  | announce (event : Event) (h : scope.Covers .announcing) : Within scope (announce event)

instance (a : α) : Within scope (pure a) := .pure a

instance (cause : Error) : Within scope (throw cause : Session α) := .throw cause

instance {first : Session α} {next : α → Session β} [hfirst : Within scope first]
    [hnext : ∀ a, Within scope (next a)] : Within scope (first >>= next) := .bind hfirst hnext

instance {f : α → β} {session : Session α} [h : Within scope session] :
    Within scope (f <$> session) := by
  rw [map_eq_pure_bind]
  exact .bind h fun _ => .pure _

instance {session : Session α} [h : Within scope session] : Within scope (discard session) :=
  inferInstanceAs (Within scope ((fun _ => PUnit.unit) <$> session))

instance {condition : Prop} [Decidable condition] {yes no : Session α} [hyes : Within scope yes]
    [hno : Within scope no] : Within scope (if condition then yes else no) := by
  split
  · exact hyes
  · exact hno

instance : Within scope read := .read

instance : Within scope tables := .tables

instance : Within scope sequences := .sequences

instance (verb : Verb) (table : TableName) : Within scope (statement verb table) :=
  .statement verb table

instance {body : Session α} [h : Within scope body] : Within scope (transaction body) :=
  .transaction h

instance (f : Tables → Tables) [h : scope.Covers .writing] : Within scope (modifyTables f) :=
  .modifyTables f h

instance (f : Sequences → Sequences) [h : scope.Covers .writing] :
    Within scope (modifySequences f) := .modifySequences f h

instance (stock : Int) [h : scope.Covers .restocking] : Within scope (recordStock stock) :=
  .recordStock stock h

instance (event : Event) [h : scope.Covers .announcing] : Within scope (announce event) :=
  .announce event h

instance : Within scope storeTime := by
  unfold storeTime
  infer_instance

instance : Within scope wallTime := by
  unfold wallTime
  infer_instance

instance (outcome : Except Error α) : Within scope (ofExcept outcome) := by
  cases outcome with
  | error cause => exact .throw cause
  | ok a => exact .pure a

instance (cause : Error) (found? : Option α) : Within scope (found cause found?) := by
  cases found? with
  | none => exact .throw cause
  | some a => exact .pure a

instance (holds : Bool) (cause : Error) : Within scope (require holds cause) := by
  unfold require
  infer_instance

instance (holds : Bool) : Within scope (constraint holds) := by
  unfold constraint
  infer_instance

instance (read? : ρ → Option α) (found? : Option ρ) : Within scope (readFound read? found?) := by
  cases found? with
  | none => exact .pure none
  | some row => exact inferInstanceAs (Within scope (some <$> found .internal (read? row)))

instance (read? : ρ → Option α) (rows : List ρ) : Within scope (readRows read? rows) := by
  unfold readRows
  infer_instance

instance {f : α → Session PUnit} [∀ x, Within scope (f x)] (xs : List α) :
    Within scope (forM xs f) := by
  induction xs with
  | nil => exact .pure PUnit.unit
  | cons x rest ih =>
    rw [List.forM_cons]
    infer_instance

instance {f : α → Session PUnit} [∀ x, Within scope (f x)] (xs : List α) :
    Within scope (xs.forM f) := by
  rw [List.forM_eq_forM]
  infer_instance

instance {f : α → Session PUnit} [h : ∀ x, Within scope (f x)] (x? : Option α) :
    Within scope (x?.forM f) := by
  cases x? with
  | none => exact .pure PUnit.unit
  | some x => exact h x

instance {f : α → Session β} [∀ x, Within scope (f x)] (xs : List α) :
    Within scope (xs.mapM f) := by
  induction xs with
  | nil =>
    rw [List.mapM_nil]
    infer_instance
  | cons x rest ih =>
    rw [List.mapM_cons]
    infer_instance

/-- What every primitive step of a scope does, a session of that scope does. -/
theorem Within.moves {R : Progress → Progress → Prop} (refl : ∀ p, R p p)
    (trans : ∀ p q r, R p q → R q r → R p r) (fault : ∀ p fault, R p { p with fault })
    (rollback : ∀ p q, R p q → R p { q with tables := p.tables })
    (tables : scope.Covers .writing → ∀ p tables, R p { p with tables })
    (sequences : scope.Covers .writing → ∀ p sequences, R p { p with sequences })
    (overflowed : scope.Covers .restocking → ∀ p overflowed, R p { p with overflowed })
    (events : scope.Covers .announcing → ∀ p events, R p { p with events })
    {session : Session α} (h : Within scope session) (context : Context) (p : Progress) :
    R p (session.exec context p).2 := by
  induction h generalizing p with
  | pure a => exact refl p
  | throw cause => exact refl p
  | @bind _ _ first next hfirst hnext ihfirst ihnext =>
    have hp := ihfirst p
    rw [exec_bind]
    rcases h : first.exec context p with ⟨_ | a, middle⟩
    · rwa [h] at hp
    · rw [h] at hp
      exact trans p middle _ hp (ihnext a middle)
  | read => exact refl p
  | tables => exact refl p
  | sequences => exact refl p
  | statement verb table =>
    rw [exec_statement]
    split
    · exact refl p
    · split_ifs
      · exact fault p _
      · exact fault p _
      · exact refl p
  | @transaction _ body h ih =>
    have hp := ih p
    rw [exec_transaction]
    rcases h : body.exec context p with ⟨_ | a, after⟩
    · rw [h] at hp
      exact rollback p after hp
    · rwa [h] at hp
  | modifyTables f h => exact tables h p _
  | modifySequences f h => exact sequences h p _
  | recordStock stock h => exact overflowed h p _
  | announce event h => exact events h p _

theorem not_covers_of_rank_lt {wide narrow : Scope} (h : wide.rank < narrow.rank) :
    ¬ wide.Covers narrow :=
  fun hc => absurd hc.rank_le (Nat.not_le.mpr h)

/-- A session that only reads changes nothing but the count of the fault. -/
theorem calm_exec (session : Session α) [h : Within .reading session] (context : Context)
    (p : Progress) : (session.exec context p).2.calm = p.calm := by
  refine h.moves (R := fun p q => q.calm = p.calm) (fun _ => rfl) (fun _ _ _ h₁ h₂ => h₂.trans h₁)
    (fun _ _ => rfl) (fun p q hq => ?_) ?_ ?_ ?_ ?_ context p
  · have htables : q.calm.tables = p.calm.tables := congrArg Progress.tables hq
    change { q.calm with tables := p.calm.tables } = p.calm
    rw [← htables]
    exact hq
  · exact fun hc => absurd hc (not_covers_of_rank_lt (by decide))
  · exact fun hc => absurd hc (not_covers_of_rank_lt (by decide))
  · exact fun hc => absurd hc (not_covers_of_rank_lt (by decide))
  · exact fun hc => absurd hc (not_covers_of_rank_lt (by decide))

theorem tables_exec (session : Session α) [Within .reading session] (context : Context)
    (p : Progress) : (session.exec context p).2.tables = p.tables :=
  congrArg (·.tables) (calm_exec session context p)

/-- A session announces nothing unless its scope admits it. -/
theorem events_exec (session : Session α) [h : Within .restocking session] (context : Context)
    (p : Progress) : (session.exec context p).2.events = p.events := by
  refine h.moves (R := fun p q => q.events = p.events) (fun _ => rfl)
    (fun _ _ _ h₁ h₂ => h₂.trans h₁) (fun _ _ => rfl) (fun _ _ h => h) (fun _ _ _ => rfl)
    (fun _ _ _ => rfl) (fun _ _ _ => rfl) ?_ context p
  exact fun hc => absurd hc (not_covers_of_rank_lt (by decide))

/-- A session puts nothing back into stock unless its scope admits it. -/
theorem overflowed_exec (session : Session α) [h : Within .writing session] (context : Context)
    (p : Progress) : (session.exec context p).2.overflowed = p.overflowed := by
  refine h.moves (R := fun p q => q.overflowed = p.overflowed) (fun _ => rfl)
    (fun _ _ _ h₁ h₂ => h₂.trans h₁) (fun _ _ => rfl) (fun _ _ h => h) (fun _ _ _ => rfl)
    (fun _ _ _ => rfl) ?_ ?_ context p
  · exact fun hc => absurd hc (not_covers_of_rank_lt (by decide))
  · exact fun hc => absurd hc (not_covers_of_rank_lt (by decide))

/-- A session that returns the same with the fault and without it leaves no trace of the fault. -/
theorem Returns.exec_calm_eq {context : Context} {p p' : Progress} {session : Session α} {a : α}
    (h : Returns session context p a p') (h' : Returns session context p.calm a p'.calm) :
    session.exec context p.calm =
      ((session.exec context p).1, (session.exec context p).2.calm) := by
  rw [Returns] at h h'
  rw [h, h']

/-- A fault makes the session fail, or the session does what it does without the fault. -/
theorem exec_calm (session : Session α) [h : Within .announcing session] (context : Context)
    (p : Progress) :
    (∃ after, session.exec context p = (.error .internal, after)) ∨
      session.exec context p.calm =
        ((session.exec context p).1, (session.exec context p).2.calm) := by
  induction h generalizing p with
  | pure a => exact .inr rfl
  | throw cause => exact .inr rfl
  | @bind _ _ first next hfirst hnext ihfirst ihnext =>
    simp only [exec_bind]
    rcases h : first.exec context p with ⟨cause | a, middle⟩
    · rcases ihfirst p with ⟨after, hfault⟩ | hcalm
      · obtain ⟨rfl, rfl⟩ : cause = .internal ∧ middle = after := by simpa [h] using hfault
        exact .inl ⟨middle, rfl⟩
      · rw [hcalm, h]
        exact .inr rfl
    · have hcalm : first.exec context p.calm = (.ok a, middle.calm) := by
        rcases ihfirst p with ⟨after, hfault⟩ | hcalm
        · simp [h] at hfault
        · rw [hcalm, h]
      rw [hcalm]
      exact ihnext a middle
  | read => exact .inr rfl
  | tables => exact .inr rfl
  | sequences => exact .inr rfl
  | statement verb table =>
    simp only [exec_statement]
    split
    · exact .inr rfl
    · split_ifs
      · exact .inl ⟨_, rfl⟩
      · exact .inr rfl
      · exact .inr rfl
  | @transaction _ body h ih =>
    simp only [exec_transaction]
    rcases h : body.exec context p with ⟨cause | a, after⟩
    · rcases ih p with ⟨after', hfault⟩ | hcalm
      · obtain ⟨rfl, rfl⟩ : cause = .internal ∧ after = after' := by simpa [h] using hfault
        exact .inl ⟨_, rfl⟩
      · rw [hcalm, h]
        exact .inr rfl
    · have hcalm : body.exec context p.calm = (.ok a, after.calm) := by
        rcases ih p with ⟨after', hfault⟩ | hcalm
        · simp [h] at hfault
        · rw [hcalm, h]
      rw [hcalm]
      exact .inr rfl
  | modifyTables f h => exact .inr rfl
  | modifySequences f h => exact .inr rfl
  | recordStock stock h => exact .inr rfl
  | announce event h => exact .inr rfl

/-- What a session returns although a fault was to come, it returns without the fault. -/
theorem Returns.without_fault {session : Session α} [Within .announcing session] {context : Context}
    {p p' : Progress} {a : α} (h : Returns session context p a p') :
    Returns session context p.calm a p'.calm := by
  rcases exec_calm session context p with ⟨after, hfault⟩ | hcalm
  · rw [Returns, hfault] at h
    simp at h
  · rw [Returns, hcalm, h]

/-- A session that does not announce leaves the events as they are. -/
theorem Returns.events_eq {session : Session α} [Within .restocking session] {context : Context}
    {p p' : Progress} {a : α} (h : Returns session context p a p') : p'.events = p.events := by
  have hevents := events_exec session context p
  rwa [h] at hevents

theorem Returns.tables_eq {session : Session α} [Within .reading session] {context : Context}
    {p p' : Progress} {a : α} (h : Returns session context p a p') : p'.tables = p.tables := by
  have htables := tables_exec session context p
  rwa [h] at htables

theorem Returns.fault_eq_none {session : Session α} [Within .announcing session] {context : Context}
    {p p' : Progress} {a : α} (h : Returns session context p a p') (calm : p.fault = none) :
    p'.fault = none := by
  have hcalm := h.without_fault
  rw [Progress.calm_eq_self calm, Returns, h, Prod.mk.injEq] at hcalm
  rw [hcalm.2]
  rfl

end Session
end Storefront
