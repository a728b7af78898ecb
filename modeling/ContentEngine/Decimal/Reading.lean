import ContentEngine.Decimal.Double

/-!
# Reading decimals

A decimal is read in two steps. Its digits are gathered into an integer of 64 bits, further digits
only counted; then the integer, rounded to a double, is multiplied by or divided by a power of ten,
which is itself a double. So the last bit may differ from the nearest double. A number beyond the
range of doubles is refused, one too small for it is zero.
-/

namespace ContentEngine.Decimal

/-- The largest unsigned integer of 64 bits. -/
def maxUnsigned : Nat := 0xFFFFFFFFFFFFFFFF

/-- The digits gathered so far, and the power of ten that stands for the others. -/
structure Gathered where
  significand : Nat
  exponent : Int
  full : Bool

namespace Gathered

/-- One more digit before the point. -/
def addWhole (g : Gathered) (digit : Nat) : Gathered :=
  if g.full ∨ maxUnsigned < g.significand * 10 + digit then
    { g with exponent := g.exponent + 1, full := true }
  else { g with significand := g.significand * 10 + digit }

/-- One more digit after the point. -/
def addFraction (g : Gathered) (digit : Nat) : Gathered :=
  if g.full ∨ maxUnsigned < g.significand * 10 + digit then { g with full := true }
  else { g with significand := g.significand * 10 + digit, exponent := g.exponent - 1 }

end Gathered

/-- The double nearest to a power of ten. -/
def powerOfTen (n : Nat) : Float :=
  OfScientific.ofScientific 1 false n

/-- `f * 10 ^ e` by one multiplication, or by divisions with at most `fuel` steps of `10 ^ 308`;
`none` if it leaves the range of doubles. -/
def scaled (f : Float) (e : Int) : Nat → Option Float
  | 0 => some 0
  | fuel + 1 =>
    if 0 ≤ e then
      if e ≤ 308 then
        let x := f * powerOfTen e.toNat
        if x.isInf then none else some x
      else if f == 0 then some f
      else none
    else if -308 ≤ e then some (f / powerOfTen (-e).toNat)
    else if f == 0 then some f
    else scaled (f / powerOfTen 308) (e + 308) fuel

/-- The double of a sign, an integer of 64 bits and a power of ten. -/
def toDouble? (negative : Bool) (significand : Nat) (exponent : Int) : Option Double :=
  (scaled significand.toUInt64.toFloat exponent 8).map fun x =>
    Double.ofFloat (if negative then -x else x)

end ContentEngine.Decimal
