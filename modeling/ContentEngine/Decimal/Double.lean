/-!
# Finite doubles

A number that is no integer of 64 bits is kept as a double, by its bits. A value holds finite
doubles only: reading refuses numbers that leave their range. Two doubles are told apart by their
bits, and `Double.agrees` compares them as numbers, for which the two zeros are one.
-/

namespace ContentEngine

/-- A finite double, by its bits. -/
structure Double where
  bits : UInt64
  deriving DecidableEq, Repr, Inhabited

namespace Double

/-- Whether the sign bit is set. -/
def isNegative (d : Double) : Bool :=
  d.bits >>> 63 == 1

/-- The eleven exponent bits. -/
def exponentBits (d : Double) : Nat :=
  ((d.bits >>> 52) &&& 0x7FF).toNat

/-- The fifty-two fraction bits. -/
def fractionBits (d : Double) : Nat :=
  (d.bits &&& 0xFFFFFFFFFFFFF).toNat

/-- The integer `m` of the absolute value `m * 2 ^ q`. -/
def significand (d : Double) : Nat :=
  if d.exponentBits = 0 then d.fractionBits else d.fractionBits + 0x10000000000000

/-- The exponent `q` of the absolute value `m * 2 ^ q`. -/
def exponent (d : Double) : Int :=
  (if d.exponentBits = 0 then 1 else (d.exponentBits : Int)) - 1075

/-- Whether the double is one of the two zeros. -/
def isZero (d : Double) : Bool :=
  d.significand == 0

/-- Equality as numbers: the two zeros agree. -/
def agrees (a b : Double) : Bool :=
  a.bits == b.bits || (a.isZero && b.isZero)

/-- The double of a float. -/
def ofFloat (x : Float) : Double :=
  ⟨x.toBits⟩

end Double

end ContentEngine
