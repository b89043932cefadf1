import Storefront.Text.Digits

/-!
JSON values. A number keeps the digits it was written with, and an object its members in order.
-/

namespace Storefront

namespace Json

/-- A written number: its sign, the digits before the point, those after it, and the exponent with
its sign. -/
structure Number where
  isNegative : Bool
  whole : List Char
  fraction : Option (List Char)
  exponent : Option (Bool × List Char)
  deriving DecidableEq, Repr

namespace Number

def ofInt (n : Int) : Number :=
  ⟨n < 0, Nat.toDigits 10 n.natAbs, none, none⟩

/-- The integer that a number without point and exponent is. Minus zero is none. -/
def int? (n : Number) : Option Int :=
  match n.fraction, n.exponent, Text.naturalFrom 0 n.whole with
  | none, none, some value =>
    if n.isNegative then if value = 0 then none else some (-value) else some value
  | _, _, _ => none

def render (n : Number) : String :=
  (if n.isNegative then "-" else "") ++ String.ofList n.whole ++
    (match n.fraction with
      | none => ""
      | some digits => "." ++ String.ofList digits) ++
    (match n.exponent with
      | none => ""
      | some (true, digits) => "e-" ++ String.ofList digits
      | some (false, digits) => "e" ++ String.ofList digits)

end Number
end Json

inductive Json where
  | null
  | bool (value : Bool)
  | number (value : Json.Number)
  | string (value : String)
  | array (items : List Json)
  | object (members : List (String × Json))
  deriving Repr

namespace Json

def int (n : Int) : Json := .number (.ofInt n)

/-- A value that may be missing; `null` stands for a missing one. -/
def ofOption {α : Type} (form : α → Json) : Option α → Json
  | none => .null
  | some a => form a

/-- The last member of an object with the given name, unless it is `null`. -/
def field? (name : String) : Json → Option Json
  | .object members =>
    match members.reverse.find? fun member => member.1 = name with
    | some (_, .null) => none
    | some (_, value) => some value
    | none => none
  | _ => none

def string? : Json → Option String
  | .string value => some value
  | _ => none

def int? : Json → Option Int
  | .number n => n.int?
  | _ => none

def bool? : Json → Option Bool
  | .bool value => some value
  | _ => none

def array? : Json → Option (List Json)
  | .array items => some items
  | _ => none

def object? : Json → Option (List (String × Json))
  | .object members => some members
  | _ => none

end Json
end Storefront
