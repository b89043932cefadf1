import Storefront.Arithmetic

/-!
Exact decimal numbers. A number keeps the places it was written with: `1.0` and `1` have one value
and two mantissas. Arithmetic is exact, and comparison goes by value.
-/

namespace Storefront

/-- The number `mantissa / 10 ^ places`. -/
structure Decimal where
  mantissa : Int
  places : Nat
  deriving DecidableEq, Repr

namespace Decimal

def ofInt (n : Int) : Decimal := ⟨n, 0⟩

/-- A number given in hundredths. -/
def ofHundredths (n : Int) : Decimal := ⟨n, 2⟩

/-- The mantissa of the same value at `n` places, where `n` is no fewer than it has. -/
def mantissaAt (n : Nat) (d : Decimal) : Int :=
  d.mantissa * tenTo (n - d.places)

def add (a b : Decimal) : Decimal :=
  let n := max a.places b.places
  ⟨a.mantissaAt n + b.mantissaAt n, n⟩

def sub (a b : Decimal) : Decimal :=
  let n := max a.places b.places
  ⟨a.mantissaAt n - b.mantissaAt n, n⟩

def mul (a b : Decimal) : Decimal :=
  ⟨a.mantissa * b.mantissa, a.places + b.places⟩

instance : Add Decimal := ⟨add⟩
instance : Sub Decimal := ⟨sub⟩
instance : Mul Decimal := ⟨mul⟩

/-- Strict order of values. -/
def lt (a b : Decimal) : Prop :=
  let n := max a.places b.places
  a.mantissaAt n < b.mantissaAt n

instance : LT Decimal := ⟨lt⟩

instance (a b : Decimal) : Decidable (a < b) :=
  inferInstanceAs (Decidable
    (a.mantissaAt (max a.places b.places) < b.mantissaAt (max a.places b.places)))

example : ofInt 1 < ⟨101, 2⟩ := by decide
example : ofHundredths 250 - ⟨5, 1⟩ = ⟨200, 2⟩ := by decide

end Decimal
end Storefront
