import Storefront.Proofs.Session.Scope

/-!
Sessions that record no stock too large for its column. Whether a session does depends on where it
begins: what it reads and what it has changed so far decide on the sums that it records next.
-/

namespace Storefront.Session

variable {α β : Type} {context : Context} {p : Progress}

/-- No sum of stock that the session records from here on is too large. -/
def InRange (session : Session α) (context : Context) (p : Progress) : Prop :=
  (session.exec context p).2.overflowed = p.overflowed

theorem inRange_writing (session : Session α) [Within .writing session] :
    InRange session context p :=
  overflowed_exec session context p

theorem inRange_announce (event : Event) : InRange (announce event) context p := rfl

theorem inRange_attempt {body : Session α} (h : InRange body context p) :
    InRange (attempt body) context p := by
  unfold InRange
  rw [exec_attempt]
  exact h

theorem inRange_recordStock {stock : Int} (h : Text.fitsSigned 32 stock) :
    InRange (recordStock stock) context p := by
  change (p.overflowed || !Text.fitsSigned 32 stock) = p.overflowed
  rw [h]
  exact Bool.or_false _

theorem InRange.transaction {body : Session α} (h : InRange body context p) :
    InRange (transaction body) context p := by
  unfold InRange at h ⊢
  rw [exec_transaction]
  rcases hexec : body.exec context p with ⟨cause | a, after⟩
  · rw [hexec] at h
    exact h
  · rw [hexec] at h
    exact h

/-- What follows has to be in range wherever the first session may end. -/
theorem InRange.bind {first : Session α} {next : α → Session β} (hfirst : InRange first context p)
    (hnext : ∀ a p', Returns first context p a p' → InRange (next a) context p') :
    InRange (first >>= next) context p := by
  unfold InRange at hfirst ⊢
  rw [exec_bind]
  rcases hexec : first.exec context p with ⟨cause | a, middle⟩
  · rw [hexec] at hfirst
    exact hfirst
  · rw [hexec] at hfirst
    exact (hnext a middle hexec).trans hfirst

/-- After a session that reads, the store is the same and the answer is one that it gives without a
fault. -/
theorem InRange.reading_bind {first : Session α} {next : α → Session β} [Within .reading first]
    [Within .announcing first]
    (hnext : ∀ a p', Returns first context p.calm a p.calm → p'.tables = p.tables →
      InRange (next a) context p') :
    InRange (first >>= next) context p := by
  unfold InRange
  have hcalm := calm_exec first context p
  rw [exec_bind]
  rcases hexec : first.exec context p with ⟨cause | a, middle⟩
  · rw [hexec] at hcalm
    exact congrArg (·.overflowed) hcalm
  · rw [hexec] at hcalm
    have hreturns : Returns first context p.calm a middle.calm := Returns.without_fault hexec
    rw [hcalm] at hreturns
    apply (hnext a middle hreturns (congrArg (·.tables) hcalm)).trans
    exact congrArg (·.overflowed) hcalm

theorem InRange.map {session : Session α} (h : InRange session context p) (f : α → β) :
    InRange (f <$> session) context p := by
  unfold InRange
  rw [exec_map_snd]
  exact h

/-- A session that is announced once it has returned is in range if it is. -/
theorem InRange.announced {session : Session α} (h : InRange session context p)
    (event : α → Event) (f : α → β) :
    InRange (session >>= fun a => announce (event a) >>= fun _ => pure (f a)) context p :=
  h.bind fun a _ _ => (inRange_announce (event a)).bind fun _ _ _ => inRange_writing (pure (f a))

end Storefront.Session
