import MockApi.Text.Digits

/-!
Percent signs with two hexadecimal digits stand for bytes.
-/
namespace MockApi.Text

def utf8Bytes (c : Char) : List Nat := (String.utf8EncodeChar c).map UInt8.toNat

/-- The bytes of a text; a percent sign without two digits behind it stays as it is. -/
def percentBytes : List Char → List Nat
  | [] => []
  | '%' :: a :: b :: rest =>
      match hexValue? a, hexValue? b with
      | some high, some low => (16 * high + low) :: percentBytes rest
      | _, _ => 0x25 :: percentBytes (a :: b :: rest)
  | c :: rest => utf8Bytes c ++ percentBytes rest

end MockApi.Text
