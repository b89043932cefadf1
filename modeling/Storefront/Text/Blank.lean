/-!
Blank characters: those of the Unicode property `White_Space`. Trimming removes them from both
ends of a text.
-/

namespace Storefront.Text

/-- The property `White_Space`. -/
def isBlank (c : Char) : Bool :=
  let n := c.toNat
  (0x09 ≤ n && n ≤ 0x0D) || n = 0x20 || n = 0x85 || n = 0xA0 || n = 0x1680 ||
    (0x2000 ≤ n && n ≤ 0x200A) || n = 0x2028 || n = 0x2029 || n = 0x202F || n = 0x205F ||
    n = 0x3000

/-- A list of characters without its blanks at either end. -/
def trimmed (cs : List Char) : List Char :=
  ((cs.dropWhile isBlank).reverse.dropWhile isBlank).reverse

/-- A text without its blanks at either end. -/
def trim (text : String) : String :=
  String.ofList (trimmed text.toList)

example : trim "\u3000 a b\t\n" = "a b" := by decide +kernel

end Storefront.Text
