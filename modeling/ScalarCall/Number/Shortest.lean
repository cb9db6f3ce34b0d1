/-!
The shortest decimal that reads back as a given binary number.

A binary number `m * 2 ^ q` is what a reader makes of every real number nearer to it than to its
two neighbours, and of the two midpoints if `m` is even. Of the decimals in this interval the one
with the fewest digits is taken, of several the nearest, and of two equally near ones the greater.
-/

namespace ScalarCall.Number

/-- The positive number `significand * 2 ^ exponent`. The next number below is half as far away as
the next one above if `narrow` holds. -/
structure Dyadic where
  significand : Nat
  exponent : Int
  narrow : Bool
deriving DecidableEq

/-- The number `digits * 10 ^ exponent`. -/
structure Decimal where
  digits : Nat
  exponent : Int
deriving DecidableEq

namespace Dyadic

/-- `units * 2 ^ (exponent - 2) ≤ k * 10 ^ e`, with all fractions cleared. -/
def quartersLe (d : Dyadic) (units k : Nat) (e : Int) : Bool :=
  let q := d.exponent - 2
  units * Nat.pow 2 q.toNat * Nat.pow 10 (-e).toNat ≤
    k * Nat.pow 10 e.toNat * Nat.pow 2 (-q).toNat

/-- `k * 10 ^ e ≤ units * 2 ^ (exponent - 2)`. -/
def leQuarters (d : Dyadic) (units k : Nat) (e : Int) : Bool :=
  let q := d.exponent - 2
  k * Nat.pow 10 e.toNat * Nat.pow 2 (-q).toNat ≤
    units * Nat.pow 2 q.toNat * Nat.pow 10 (-e).toNat

/-- The midpoint to the number below, in quarters of the last binary place. -/
def lower (d : Dyadic) : Nat := 4 * d.significand - if d.narrow then 1 else 2

/-- The midpoint to the number above, in quarters of the last binary place. -/
def upper (d : Dyadic) : Nat := 4 * d.significand + 2

/-- Whether `k * 10 ^ e` reads back as `d`. -/
def holds (d : Dyadic) (k : Nat) (e : Int) : Bool :=
  if d.significand % 2 = 0 then d.quartersLe d.lower k e && d.leQuarters d.upper k e
  else !d.leQuarters d.lower k e && !d.quartersLe d.upper k e

/-- The greatest `k` with `k * 10 ^ e` not above `d`. -/
def floorAt (d : Dyadic) (e : Int) : Nat :=
  d.significand * Nat.pow 2 d.exponent.toNat * Nat.pow 10 (-e).toNat /
    (Nat.pow 10 e.toNat * Nat.pow 2 (-d.exponent).toNat)

/-- Whether `k * 10 ^ e` is strictly nearer to `d` than `(k + 1) * 10 ^ e`. -/
def nearerBelow (d : Dyadic) (k : Nat) (e : Int) : Bool :=
  2 * d.significand * Nat.pow 2 d.exponent.toNat * Nat.pow 10 (-e).toNat <
    (2 * k + 1) * Nat.pow 10 e.toNat * Nat.pow 2 (-d.exponent).toNat

/-- The multiple of `10 ^ e` nearest to `d` that reads back as `d`. -/
def nearestAt? (d : Dyadic) (e : Int) : Option Nat :=
  let k := d.floorAt e
  if d.holds k e then
    if d.holds (k + 1) e && !d.nearerBelow k e then some (k + 1) else some k
  else if d.holds (k + 1) e then some (k + 1)
  else none

/-- Tries ever finer powers of ten, `tries` of them before it settles for the floor. -/
def shortestFrom (d : Dyadic) : (tries : Nat) → (e : Int) → Decimal
  | 0, e => ⟨d.floorAt e, e⟩
  | tries + 1, e =>
    match d.nearestAt? e with
    | some k => ⟨k, e⟩
    | none => d.shortestFrom tries (e - 1)

/-- A power of ten above `d` and its neighbours; `log10 2` lies just below `30103 / 100000`. -/
def startExponent (d : Dyadic) : Int :=
  (d.significand.log2 + 1 + d.exponent) * 30103 / 100000 + 1

/-- The shortest decimal that reads back as `d`. -/
def shortest (d : Dyadic) : Decimal :=
  d.shortestFrom (d.significand.log2 + 6) d.startExponent

end Dyadic

end ScalarCall.Number
