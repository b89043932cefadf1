import Storefront.Decimal.Rounding
import Storefront.Text.Digits

/-!
The written form of numbers. A decimal is written positionally, without an exponent and without
zeros at the end of its fraction; an amount in hundredths has two places, and zero has none.
-/

namespace Storefront

namespace Decimal

/-- Reads an optional sign and digits with at most one point among them. -/
def ofText? (text : String) : Option Decimal :=
  let read (cs : List Char) : Option (Nat × Nat) :=
    match cs.dropWhile (· ≠ '.') with
    | [] => (Text.natural? cs).map (·, 0)
    | _ :: fraction =>
      (Text.natural? (cs.takeWhile (· ≠ '.') ++ fraction)).map (·, fraction.length)
  match text.toList with
  | '-' :: cs => (read cs).map fun (m, places) => ⟨-m, places⟩
  | '+' :: cs => (read cs).map fun (m, places) => ⟨m, places⟩
  | cs => (read cs).map fun (m, places) => ⟨m, places⟩

def render (d : Decimal) : String :=
  let m := d.mantissa.natAbs
  let digits := Text.fixedDigits 10 d.places m
  let fraction := (digits.reverse.dropWhile (· = '0')).reverse
  (if d.mantissa < 0 then "-" else "") ++ Nat.repr (m / tenTo d.places) ++
    (if fraction.isEmpty then "" else "." ++ String.ofList fraction)

example : (ofText? "-100.50").map render = some "-100.5" := by decide +kernel
example : (ofText? "1.2.3").map render = none := by decide +kernel

end Decimal

/-- An amount in hundredths, with two places unless it is zero. -/
def renderHundredths (n : Int) : String :=
  if n = 0 then "0"
  else
    (if n < 0 then "-" else "") ++ Nat.repr (n.natAbs / 100) ++ "." ++
      String.ofList (Text.fixedDigits 10 2 n.natAbs)

example : renderHundredths (-1205) = "-12.05" := by decide +kernel

end Storefront
