import Storefront.Arithmetic

/-!
Numerals. A number is written at a fixed width in a given base, and read from ASCII digits with an
optional sign.
-/

namespace Storefront.Text

/-- The last `width` digits of `n` in base `base`, the most significant first. -/
def fixedDigits (base : Nat) : Nat → Nat → List Char
  | 0, _ => []
  | width + 1, n => fixedDigits base width (n / base) ++ [Nat.digitChar (n % base)]

@[simp] theorem length_fixedDigits (base width n : Nat) :
    (fixedDigits base width n).length = width := by
  induction width generalizing n with
  | zero => rfl
  | succ width ih => simp [fixedDigits, ih]

/-- The value of an ASCII decimal digit. -/
def digitValue? (c : Char) : Option Nat :=
  if '0' ≤ c ∧ c ≤ '9' then some (c.toNat - '0'.toNat) else none

/-- The value of a digit in base sixteen, of either case. -/
def hexValue? (c : Char) : Option Nat :=
  if '0' ≤ c ∧ c ≤ '9' then some (c.toNat - '0'.toNat)
  else if 'a' ≤ c ∧ c ≤ 'f' then some (c.toNat - 'a'.toNat + 10)
  else if 'A' ≤ c ∧ c ≤ 'F' then some (c.toNat - 'A'.toNat + 10)
  else none

/-- Reads digits after a part worth `value` has been read. -/
def naturalFrom (value : Nat) : List Char → Option Nat
  | [] => some value
  | c :: rest => do naturalFrom (value * 10 + (← digitValue? c)) rest

/-- Reads one or more ASCII digits. -/
def natural? : List Char → Option Nat
  | [] => none
  | digits => naturalFrom 0 digits

/-- Reads ASCII digits after an optional sign. -/
def signed? : List Char → Option Int
  | '+' :: digits => (natural? digits).map Int.ofNat
  | '-' :: digits => (natural? digits).map fun n => -Int.ofNat n
  | digits => (natural? digits).map Int.ofNat

/-- Reads ASCII digits after an optional plus sign. -/
def unsigned? : List Char → Option Nat
  | '+' :: digits => natural? digits
  | digits => natural? digits

/-- The integers of a signed word of `bits` bits. -/
def fitsSigned (bits : Nat) (n : Int) : Bool :=
  decide (-(twoTo (bits - 1) : Int) ≤ n ∧ n < twoTo (bits - 1))

/-- Reads a signed integer that fits a word of `bits` bits. -/
def signedWord? (bits : Nat) (text : String) : Option Int :=
  (signed? text.toList).filter (fitsSigned bits)

/-- Reads an unsigned integer that fits a word of `bits` bits. -/
def unsignedWord? (bits : Nat) (text : String) : Option Nat :=
  (unsigned? text.toList).filter (· < twoTo bits)

example : signedWord? 32 "-2147483648" = some (-2147483648) := by decide +kernel
example : signedWord? 32 "2147483648" = none := by decide +kernel
example : signedWord? 32 "+" = none := by decide +kernel
example : unsignedWord? 16 "+080" = some 80 := by decide +kernel

end Storefront.Text
