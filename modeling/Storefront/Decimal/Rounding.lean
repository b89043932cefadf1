import Storefront.Decimal.Basic

/-!
Rounding. A quotient goes to the nearest integer, and a tie to the side that the caller names.
-/

namespace Storefront

/-- Where a quotient halfway between two integers goes. -/
inductive Tie where
  | toEven
  | awayFromZero
  deriving DecidableEq, Repr

/-- Whether a remainder `r` of a division by `d` with quotient `q` adds one to the quotient. -/
def Tie.roundsUp (tie : Tie) (q r d : Nat) : Bool :=
  d < 2 * r || (2 * r == d && (tie == .awayFromZero || q % 2 == 1))

/-- The integer nearest to `n / d`. -/
def roundQuotient (tie : Tie) (n : Int) (d : Nat) : Int :=
  let q := n.natAbs / d
  let nearest := if tie.roundsUp q (n.natAbs % d) d then q + 1 else q
  if n < 0 then -nearest else nearest

example : roundQuotient .toEven 25 10 = 2 := by decide
example : roundQuotient .toEven (-35) 10 = -4 := by decide
example : roundQuotient .awayFromZero (-25) 10 = -3 := by decide

namespace Decimal

/-- The nearest number with exactly `n` places. -/
def round (tie : Tie) (n : Nat) (d : Decimal) : Decimal :=
  if d.places ≤ n then ⟨d.mantissaAt n, n⟩
  else ⟨roundQuotient tie d.mantissa (tenTo (d.places - n)), n⟩

/-- The nearest number of hundredths, a tie going away from zero. -/
def toHundredths (d : Decimal) : Int :=
  (d.round .awayFromZero 2).mantissa

/-- The digits of a quotient that are kept. -/
def quotientDigits : Nat := 100

/-- How many of the last digits of a hundredth of `m` fall beyond the kept ones, if its whole part
is kept in full. -/
def droppedDigits (m : Nat) : Nat :=
  if m < tenTo quotientDigits then 0 else if m < tenTo (quotientDigits + 1) then 1 else 2

/-- A hundredth of a number. It is exact up to `quotientDigits` digits; beyond these the first
digit dropped rounds the rest. -/
def hundredth (d : Decimal) : Decimal :=
  let dropped := droppedDigits d.mantissa.natAbs
  ⟨roundQuotient .awayFromZero d.mantissa (tenTo dropped), d.places + 2 - dropped⟩

@[simp] theorem toHundredths_ofHundredths (n : Int) : (ofHundredths n).toHundredths = n := by
  simp [toHundredths, round, ofHundredths, mantissaAt]

end Decimal
end Storefront
