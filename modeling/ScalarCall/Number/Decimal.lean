/-!
Decimal numbers in positional notation: an unscaled integer and the number of digits after the
point.
-/

namespace ScalarCall.Number

/-- The digits of a number, at least `n` of them. -/
def paddedDigits (n digits : Nat) : List Char :=
  let ds := Nat.toDigits 10 digits
  List.replicate (n - ds.length) '0' ++ ds

/-- `digits / 10 ^ scale`: all `scale` places are written, after at least one digit before the
point. -/
def positional (digits scale : Nat) : List Char :=
  if scale = 0 then Nat.toDigits 10 digits
  else
    let ds := paddedDigits (scale + 1) digits
    ds.take (ds.length - scale) ++ '.' :: ds.drop (ds.length - scale)

def signed (negative : Bool) (digits : List Char) : List Char :=
  if negative then '-' :: digits else digits

def decimalText (unscaled : Int) (scale : Nat) : String :=
  .ofList (signed (unscaled < 0) (positional unscaled.natAbs scale))

end ScalarCall.Number
