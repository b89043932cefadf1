/-!
Powers of ten, which scale decimals, and of two, which bound words.
-/

namespace Storefront

/-- Ten to the power `n`. -/
def tenTo (n : Nat) : Nat := Nat.pow 10 n

/-- Two to the power `n`: so many values has a word of `n` bits. -/
def twoTo (n : Nat) : Nat := Nat.pow 2 n

@[simp] theorem tenTo_zero : tenTo 0 = 1 := rfl

theorem tenTo_pos (n : Nat) : 0 < tenTo n :=
  Nat.pow_pos (by decide)

end Storefront
