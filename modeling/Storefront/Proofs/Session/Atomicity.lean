import Storefront.Proofs.Session.Scope

/-!
Sessions that do everything or nothing. A transaction that announces nothing leaves the tables and
the events as they were when it fails; what comes before it may read, and what comes after it must
not fail.
-/

namespace Storefront.Session

variable {α β : Type}

/-- A failure of the session leaves the tables and the events as they were. -/
def Atomic (session : Session α) : Prop :=
  ∀ context p cause p', session.exec context p = (.error cause, p') →
    p'.tables = p.tables ∧ p'.events = p.events

/-- The session never fails. -/
def Total (session : Session α) : Prop :=
  ∀ context p, ∃ a p', Returns session context p a p'

theorem atomic_transaction {session body : Session α} (h : session = transaction body)
    [Within .restocking session] : Atomic session := by
  intro context p cause p' hexec
  have hevents := events_exec session context p
  rw [hexec] at hevents
  rw [h, exec_transaction] at hexec
  rcases hbody : body.exec context p with ⟨cause' | a, after⟩
  · rw [hbody] at hexec
    obtain ⟨-, rfl⟩ : cause' = cause ∧ { after with tables := p.tables } = p' := by
      simpa using hexec
    exact ⟨rfl, hevents⟩
  · rw [hbody] at hexec
    simp at hexec

theorem atomic_reading (session : Session α) [Within .reading session] : Atomic session := by
  intro context p cause p' h
  have hcalm := calm_exec session context p
  rw [h] at hcalm
  exact ⟨congrArg (·.tables) hcalm, congrArg (·.events) hcalm⟩

theorem Atomic.bind_total {first : Session α} {next : α → Session β} (hfirst : Atomic first)
    (hnext : ∀ a, Total (next a)) : Atomic (first >>= next) := by
  intro context p cause p' h
  rw [exec_bind] at h
  rcases hexec : first.exec context p with ⟨cause' | a, middle⟩
  · rw [hexec] at h
    obtain ⟨rfl, rfl⟩ : cause' = cause ∧ middle = p' := by simpa using h
    exact hfirst context p cause' middle hexec
  · obtain ⟨b, last, hlast⟩ := hnext a context middle
    rw [hexec] at h
    rw [Returns] at hlast
    simp [hlast] at h

theorem Atomic.reading_bind {first : Session α} {next : α → Session β} [Within .reading first]
    (hnext : ∀ a, Atomic (next a)) : Atomic (first >>= next) := by
  intro context p cause p' h
  have hcalm := calm_exec first context p
  rw [exec_bind] at h
  rcases hexec : first.exec context p with ⟨cause' | a, middle⟩
  · rw [hexec] at h
    obtain ⟨rfl, rfl⟩ : cause' = cause ∧ middle = p' := by simpa using h
    exact atomic_reading first context p cause' middle hexec
  · rw [hexec] at h hcalm
    obtain ⟨htables, hevents⟩ := hnext a context middle cause p' h
    exact ⟨htables.trans (congrArg (·.tables) hcalm), hevents.trans (congrArg (·.events) hcalm)⟩

theorem total_pure (a : α) : Total (pure a : Session α) :=
  fun _ p => ⟨a, p, returns_pure.mpr ⟨rfl, rfl⟩⟩

theorem total_announce (event : Event) : Total (announce event) :=
  fun _ p => ⟨(), { p with events := p.events ++ [event] }, returns_announce.mpr rfl⟩

theorem total_modifyTables (f : Tables → Tables) : Total (modifyTables f) :=
  fun _ p => ⟨(), { p with tables := f p.tables }, returns_modifyTables.mpr rfl⟩

theorem total_modifySequences (f : Sequences → Sequences) : Total (modifySequences f) :=
  fun _ p => ⟨(), { p with sequences := f p.sequences }, returns_modifySequences.mpr rfl⟩

theorem total_attempt (body : Session α) : Total (attempt body) := by
  intro context p
  exact ⟨_, _, returns_attempt.mpr rfl⟩

theorem Total.bind {first : Session α} {next : α → Session β} (hfirst : Total first)
    (hnext : ∀ a, Total (next a)) : Total (first >>= next) := by
  intro context p
  obtain ⟨a, middle, ha⟩ := hfirst context p
  obtain ⟨b, last, hb⟩ := hnext a context middle
  exact ⟨b, last, returns_bind.mpr ⟨a, middle, ha, hb⟩⟩

/-- Nothing fails that only announces and answers. -/
theorem total_announced (event : Event) (a : α) : Total (announce event >>= fun _ => pure a) :=
  (total_announce event).bind fun _ => total_pure a

theorem total_ite {condition : Prop} [Decidable condition] {yes no : Session α} (hyes : Total yes)
    (hno : Total no) : Total (if condition then yes else no) := by
  split
  · exact hyes
  · exact hno

theorem Atomic.map {session : Session α} (h : Atomic session) (f : α → β) :
    Atomic (f <$> session) := by
  rw [map_eq_pure_bind]
  exact h.bind_total fun a => total_pure (f a)

end Storefront.Session
