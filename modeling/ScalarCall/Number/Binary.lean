import ScalarCall.Number.Decimal
import ScalarCall.Number.Shortest

/-!
Binary floating-point numbers, held as their bits, and their texts. All finite numbers are written
with the fewest digits that read back; two layouts differ in how they place the point.
-/

namespace ScalarCall.Number

structure Binary32 where
  bits : UInt32
deriving DecidableEq

structure Binary64 where
  bits : UInt64
deriving DecidableEq

inductive Magnitude
  | notANumber
  | infinite
  | zero
  | finite (value : Dyadic)
deriving DecidableEq

/-- Reads a stored exponent and fraction of the given widths. A stored exponent of zero marks the
subnormal numbers and a greatest one the infinities. -/
def Magnitude.ofFields (exponentBits fractionBits exponent fraction : Nat) : Magnitude :=
  let bias : Int := Nat.pow 2 (exponentBits - 1) - 1
  if exponent = Nat.pow 2 exponentBits - 1 then
    if fraction = 0 then infinite else notANumber
  else if exponent = 0 then
    if fraction = 0 then zero else finite ⟨fraction, 1 - bias - fractionBits, false⟩
  else
    finite
      ⟨Nat.pow 2 fractionBits + fraction, exponent - bias - fractionBits,
        fraction = 0 && 1 < exponent⟩

/-- Where a layout places the point. -/
structure Layout where
  /-- Whether a number is written without an exponent, by the power of ten of its first digit. -/
  positionalAt : Int → Bool
  /-- What follows a whole number in positional notation. -/
  wholeEnd : List Char

/-- Never an exponent, and nothing after a whole number. -/
def Layout.plain : Layout := ⟨fun _ => true, []⟩

/-- An exponent below `10 ^ -4` and from `10 ^ 16` on; a whole number ends in `.0`. -/
def Layout.precise : Layout := ⟨fun e => -4 ≤ e && e < 16, ['.', '0']⟩

/-- `d.ddde±x`, without a point if there is one digit. -/
def scientific (digits : List Char) (exponent : Int) : List Char :=
  match digits with
  | [] => []
  | [d] => d :: 'e' :: (toString exponent).toList
  | d :: ds => d :: '.' :: (ds ++ 'e' :: (toString exponent).toList)

/-- The text of a positive decimal. -/
def Layout.decimal (layout : Layout) (d : Decimal) : List Char :=
  let ds := Nat.toDigits 10 d.digits
  let lead := d.exponent + (ds.length - 1)
  if layout.positionalAt lead then
    if 0 ≤ d.exponent then ds ++ List.replicate d.exponent.toNat '0' ++ layout.wholeEnd
    else positional d.digits (-d.exponent).toNat
  else scientific ds lead

/-- The text of a number; the sign of zero is kept, that of no number is not. -/
def Layout.text (layout : Layout) (negative : Bool) : Magnitude → String
  | .notANumber => "NaN"
  | .infinite => .ofList (signed negative "inf".toList)
  | .zero => .ofList (signed negative ('0' :: layout.wholeEnd))
  | .finite d => .ofList (signed negative (layout.decimal d.shortest))

namespace Binary32

def negative (x : Binary32) : Bool := Nat.pow 2 31 ≤ x.bits.toNat

/-- The number without its sign: 8 bits of exponent and 23 of fraction. -/
def magnitude (x : Binary32) : Magnitude :=
  .ofFields 8 23 (x.bits.toNat / Nat.pow 2 23 % Nat.pow 2 8) (x.bits.toNat % Nat.pow 2 23)

def text (layout : Layout) (x : Binary32) : String := layout.text x.negative x.magnitude

end Binary32

namespace Binary64

def negative (x : Binary64) : Bool := Nat.pow 2 63 ≤ x.bits.toNat

/-- The number without its sign: 11 bits of exponent and 52 of fraction. -/
def magnitude (x : Binary64) : Magnitude :=
  .ofFields 11 52 (x.bits.toNat / Nat.pow 2 52 % Nat.pow 2 11) (x.bits.toNat % Nat.pow 2 52)

def text (layout : Layout) (x : Binary64) : String := layout.text x.negative x.magnitude

end Binary64

end ScalarCall.Number
