import Storefront.Text.Digits

/-!
Percent coding. Two hexadecimal digits after a percent sign stand for a byte; a percent sign
without them, and every other character, stands for itself. The bytes have to be UTF-8.
-/

namespace Storefront.Text

/-- The bytes of a coded text. -/
def percentBytes : List Char → List UInt8
  | [] => []
  | '%' :: a :: b :: rest =>
    match hexValue? a, hexValue? b with
    | some high, some low => UInt8.ofNat (high * 16 + low) :: percentBytes rest
    | _, _ => '%'.toUInt8 :: percentBytes (a :: b :: rest)
  | c :: rest => (String.singleton c).toUTF8.toList ++ percentBytes rest

/-- The text that is coded, unless its bytes are not UTF-8. -/
def percentDecode? (cs : List Char) : Option String :=
  String.fromUTF8? (ByteArray.mk (percentBytes cs).toArray)

end Storefront.Text
