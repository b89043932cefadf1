/-!
Instants on the time line. A leap second has no number of its own: it lengthens the second before
it, and is over when the next one begins.
-/

namespace Storefront

/-- A second, counted from the first moment of 1970, and the nanoseconds since it began. -/
@[ext]
structure Instant where
  second : Int
  nanosecond : Nat
  deriving DecidableEq, Repr

namespace Instant

/-- How many nanoseconds a second has, unless a leap second follows it. -/
def perSecond : Nat := 1_000_000_000

instance : LE Instant :=
  ⟨fun a b => a.second < b.second ∨ (a.second = b.second ∧ a.nanosecond ≤ b.nanosecond)⟩

instance : LT Instant :=
  ⟨fun a b => a.second < b.second ∨ (a.second = b.second ∧ a.nanosecond < b.nanosecond)⟩

instance (a b : Instant) : Decidable (a ≤ b) :=
  inferInstanceAs
    (Decidable (a.second < b.second ∨ (a.second = b.second ∧ a.nanosecond ≤ b.nanosecond)))

instance (a b : Instant) : Decidable (a < b) :=
  inferInstanceAs
    (Decidable (a.second < b.second ∨ (a.second = b.second ∧ a.nanosecond < b.nanosecond)))

variable {a b c : Instant}

theorem lt_iff : a < b ↔ a.second < b.second ∨ a.second = b.second ∧ a.nanosecond < b.nanosecond :=
  Iff.rfl

theorem lt_trans (h : a < b) (h' : b < c) : a < c := by
  rw [lt_iff] at *
  omega

theorem lt_asymm (h : a < b) : ¬ b < a := by
  rw [lt_iff] at *
  omega

theorem lt_irrefl (a : Instant) : ¬ a < a := by
  rw [lt_iff]
  omega

theorem lt_trichotomy (a b : Instant) : a < b ∨ a = b ∨ b < a := by
  rw [lt_iff, Instant.ext_iff, lt_iff]
  omega

def addSeconds (t : Instant) (n : Int) : Instant :=
  ⟨t.second + n, t.nanosecond⟩

/-- The last whole microsecond, which is as fine as a stored instant is. What lies in a leap second
is stored as the same moment of the second after it. -/
def toMicrosecond (t : Instant) : Instant :=
  ⟨t.second + (t.nanosecond / perSecond : Nat), t.nanosecond % perSecond / 1000 * 1000⟩

example : Instant.mk 59 1_999_999_999 < ⟨60, 0⟩ := by decide
example : toMicrosecond ⟨59, 1_500_000_001⟩ = ⟨60, 500_000_000⟩ := by decide

end Instant
end Storefront
