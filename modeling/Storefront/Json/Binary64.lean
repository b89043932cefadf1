import Storefront.Decimal.Rounding
import Storefront.Json.Value

/-!
Numbers as binary64 takes them in. The digits that fit a 64-bit word make an integer, which is
rounded and multiplied by a rounded power of ten; so a number near the greatest finite one may
overflow that is below it, and the other way round.
-/

namespace Storefront.Json

/-- The number `significand * 10 ^ exponent`. -/
structure Scaled where
  significand : Nat
  exponent : Int
  deriving DecidableEq, Repr

namespace Scaled

/-- One more digit after the significand, unless it outgrows a 64-bit word. -/
def extend? (significand : Nat) (digit : Char) : Option Nat :=
  (Text.naturalFrom significand [digit]).filter (· < twoTo 64)

/-- Takes in the digits before the point. From the first that does not fit on, each stands for a
power of ten. -/
def takeWhole (s : Scaled) : List Char → Scaled
  | [] => s
  | digit :: rest =>
    match extend? s.significand digit with
    | some significand => takeWhole ⟨significand, s.exponent⟩ rest
    | none => ⟨s.significand, s.exponent + (rest.length + 1 : Nat)⟩

/-- Takes in the digits after the point, up to the first that does not fit. -/
def takeFraction (s : Scaled) : List Char → Scaled
  | [] => s
  | digit :: rest =>
    match extend? s.significand digit with
    | some significand => takeFraction ⟨significand, s.exponent - 1⟩ rest
    | none => s

end Scaled

/-- The nearest number of at most 53 significant bits, a tie going to the even one. -/
def roundTo53Bits (n : Nat) : Nat :=
  let unit := twoTo (n.log2 - 52)
  (roundQuotient .toEven n unit).toNat * unit

/-- The least magnitude that rounds beyond the finite numbers. -/
def overflowBound : Nat := twoTo 1024 - twoTo 970

/-- Whether the number is infinite. There is no power of ten beyond the one with 308 zeros. -/
def Scaled.overflows (s : Scaled) : Bool :=
  if s.significand = 0 ∨ s.exponent < 0 then false
  else
    308 < s.exponent ||
      overflowBound ≤ roundTo53Bits s.significand * roundTo53Bits (tenTo s.exponent.toNat)

namespace Number

/-- The exponent that the number is written with. -/
def writtenExponent (n : Number) : Int :=
  match n.exponent with
  | none => 0
  | some (isNegative, digits) =>
    let value := (Text.naturalFrom 0 digits).getD 0
    if isNegative then -value else value

def scaled (n : Number) : Scaled :=
  let digits := ((Scaled.mk 0 0).takeWhole n.whole).takeFraction (n.fraction.getD [])
  ⟨digits.significand, digits.exponent + n.writtenExponent⟩

def overflows (n : Number) : Bool :=
  n.scaled.overflows

end Number

example : (Scaled.mk 17976931348623157 292).overflows = false := by decide +kernel
example : (Scaled.mk 1797693134862315734 290).overflows = true := by decide +kernel

end Storefront.Json
