/-!
Lower-case hexadecimal numerals.
-/

namespace ScalarCall.Text

/-- The hexadecimal numeral of a number, without leading zeros. -/
def hex (n : Nat) : List Char := Nat.toDigits 16 n

def hexByte (b : UInt8) : List Char :=
  [Nat.digitChar (b.toNat / 16), Nat.digitChar (b.toNat % 16)]

def hexBytes (bytes : List UInt8) : String :=
  .ofList (bytes.flatMap hexByte)

end ScalarCall.Text
