import Storefront.Text.LetterCase

/-!
Lower case by the Unicode rules. The capital I with a dot becomes two characters, and a capital
sigma that ends a word becomes a final sigma.
-/

namespace Storefront.Text

def inRanges (ranges : List (Nat × Nat)) (c : Char) : Bool :=
  ranges.any fun (first, last) => first ≤ c.toNat && c.toNat ≤ last

def isCased (c : Char) : Bool := inRanges casedRanges c

def isCaseIgnorable (c : Char) : Bool := inRanges ignorableRanges c

def CaseRange.contains (r : CaseRange) (n : Nat) : Bool :=
  r.first ≤ n && n ≤ r.last && (n - r.first) % r.stride = 0

/-- The lower case of a character that stands by itself. -/
def lowerChar (c : Char) : List Char :=
  if c = '\u0130' then ['i', '\u0307']
  else
    match lowerRanges.find? (·.contains c.toNat) with
    | none => [c]
    | some range => [Char.ofNat (c.toNat + range.shift).toNat]

/-- Whether the first character that is not passed over has case. -/
def beginsCased (cs : List Char) : Bool :=
  match cs.dropWhile isCaseIgnorable with
  | [] => false
  | c :: _ => isCased c

/-- The lower case of the rest of a text; the characters before it are given last one first. -/
def lowercaseAfter (before : List Char) : List Char → List Char
  | [] => []
  | c :: rest =>
    (if c = '\u03A3' then
      [if beginsCased before && !beginsCased rest then '\u03C2' else '\u03C3']
    else lowerChar c) ++ lowercaseAfter (c :: before) rest

def lowercase (text : String) : String :=
  String.ofList (lowercaseAfter [] text.toList)

example : lowercase "PayPal" = "paypal" := by decide +kernel
example : lowercase "\u03A3\u0391\u03A3" = "\u03C3\u03B1\u03C2" := by decide +kernel

end Storefront.Text
