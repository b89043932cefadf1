import Storefront.Text.Digits

/-!
Identifiers of 128 bits, written as 32 hexadecimal digits in five groups.
-/

namespace Storefront

structure Uuid where
  bits : BitVec 128
  deriving DecidableEq, Repr

namespace Uuid

/-- The `n`-th identifier that a store hands out. -/
def numbered (n : Nat) : Uuid :=
  ⟨BitVec.ofNat 128 (0x40008000000000000000 + n)⟩

/-- The 32 digits without hyphens. -/
def hexDigits (id : Uuid) : List Char :=
  Text.fixedDigits 16 32 id.bits.toNat

def render (id : Uuid) : String :=
  let digits := id.hexDigits
  let group (start width : Nat) : String := String.ofList ((digits.drop start).take width)
  group 0 8 ++ "-" ++ group 8 4 ++ "-" ++ group 12 4 ++ "-" ++ group 16 4 ++ "-" ++ group 20 12

def ofText? (text : String) : Option Uuid :=
  let digits := (text.toList.filter (· ≠ '-')).mapM Text.hexValue?
  match digits with
  | some ds =>
    if ds.length = 32 then some ⟨BitVec.ofNat 128 (ds.foldl (· * 16 + ·) 0)⟩ else none
  | none => none

example : (numbered 10).render = "00000000-0000-4000-8000-00000000000a" := by decide +kernel
example : ofText? (numbered 10).render = some (numbered 10) := by decide +kernel

end Uuid
end Storefront
