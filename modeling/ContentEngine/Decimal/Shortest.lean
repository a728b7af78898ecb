import ContentEngine.Decimal.Double

/-!
# Shortest decimals

A double is written with the fewest digits that read back as the same double, and among those
with the digits nearest to it. The search works in exact integer arithmetic: the numbers that
round to a double form an interval around it, and on each decimal grid the two neighbours of the
double are tried, coarsest grid first.
-/

namespace ContentEngine

/-- The positive number `digits * 10 ^ exponent`. -/
structure Decimal where
  digits : Nat
  exponent : Int
  deriving DecidableEq, Repr

namespace Decimal

/-- The decimal digits of a number, most significant first. -/
def digitsOf (n : Nat) : List Char :=
  Nat.toDigits 10 n

/-- A positive fraction with the ends of the interval of numbers that round to it, all over one
denominator. The ends belong to the interval if `closed` holds. -/
structure Target where
  value : Nat
  low : Nat
  high : Nat
  denominator : Nat
  closed : Bool

namespace Target

/-- The fraction and the interval of a double that is not zero. Below a power of two the doubles
are twice as dense, so the lower end is nearer there. -/
def ofDouble (d : Double) : Target :=
  let m := d.significand
  let q := d.exponent
  let below := if d.fractionBits = 0 ∧ d.exponentBits > 1 then 1 else 2
  let scale := if q < 2 then 1 else Nat.pow 2 (q - 2).toNat
  { value := 4 * m * scale
    low := (4 * m - below) * scale
    high := (4 * m + 2) * scale
    denominator := if q < 2 then Nat.pow 2 (2 - q).toNat else 1
    closed := m % 2 == 0 }

/-- The fraction as a multiple of `10 ^ e`: numerator and denominator. -/
def ratio (t : Target) (e : Int) : Nat × Nat :=
  if e < 0 then (t.value * Nat.pow 10 (-e).toNat, t.denominator)
  else (t.value, t.denominator * Nat.pow 10 e.toNat)

/-- Whether `n * 10 ^ e` rounds to the fraction. -/
def accepts (t : Target) (n : Nat) (e : Int) : Bool :=
  let up := if e < 0 then 1 else Nat.pow 10 e.toNat
  let down := if e < 0 then Nat.pow 10 (-e).toNat else 1
  let x := n * up * t.denominator
  if t.closed then t.low * down ≤ x && x ≤ t.high * down
  else t.low * down < x && x < t.high * down

/-- The exponent of the leading decimal digit. -/
def leading (t : Target) : Int :=
  let guess : Int := (digitsOf t.value).length - (digitsOf t.denominator).length
  let (n, d) := t.ratio guess
  if d ≤ n then guess else guess - 1

/-- The point of the grid of `10 ^ e` that rounds to the fraction and is nearest to it. -/
def onGrid? (t : Target) (e : Int) : Option Decimal :=
  let (n, d) := t.ratio e
  let below := n / d
  let rest := n % d
  let downOk := t.accepts below e
  let upOk := t.accepts (below + 1) e
  if downOk && upOk then
    let up := 2 * rest > d || (2 * rest == d && below % 2 == 1)
    some ⟨if up then below + 1 else below, e⟩
  else if downOk then some ⟨below, e⟩
  else if upOk then some ⟨below + 1, e⟩
  else none

/-- The first hit on grids of at least `count` digits, trying `fuel` grids. -/
def search (t : Target) (count : Nat) : Nat → Option Decimal
  | 0 => none
  | fuel + 1 =>
    match t.onGrid? (t.leading - count + 1) with
    | some hit => some hit
    | none => search t (count + 1) fuel

end Target

/-- The number without zeros at the end of its digits; `fuel` bounds how many are dropped. -/
def normalized (x : Decimal) : Nat → Decimal
  | 0 => x
  | fuel + 1 =>
    if x.digits ≠ 0 ∧ x.digits % 10 = 0 then normalized ⟨x.digits / 10, x.exponent + 1⟩ fuel else x

/-- The shortest decimal that reads back as a double that is not zero. Seventeen digits always
suffice. -/
def shortest (d : Double) : Decimal :=
  match (Target.ofDouble d).search 1 17 with
  | some x => x.normalized 20
  | none => ⟨0, 0⟩

end Decimal

/-- How a double is laid out: which exponents of the leading digit are written positionally. -/
structure DecimalFormat where
  least : Int
  greatest : Int

namespace DecimalFormat

/-- The digits around the point, or with an exponent behind them. A positive exponent has a plus
sign, and a number without fraction that is written positionally ends in `.0`. -/
def layout (format : DecimalFormat) (x : Decimal) : String :=
  let digits := Decimal.digitsOf x.digits
  let lead := x.exponent + digits.length - 1
  if format.least ≤ lead ∧ lead ≤ format.greatest then
    if 0 ≤ x.exponent then
      String.ofList (digits ++ List.replicate x.exponent.toNat '0' ++ ['.', '0'])
    else if 0 ≤ lead then
      let whole := lead.toNat + 1
      String.ofList (digits.take whole ++ '.' :: digits.drop whole)
    else
      String.ofList ('0' :: '.' :: List.replicate (-lead - 1).toNat '0' ++ digits)
  else
    let fraction := if digits.length = 1 then [] else '.' :: digits.drop 1
    let sign := if lead < 0 then "-" else "+"
    String.ofList (digits.take 1 ++ fraction) ++ "e" ++ sign ++ toString lead.natAbs

/-- The text of a double. -/
def text (format : DecimalFormat) (d : Double) : String :=
  let sign := if d.isNegative then "-" else ""
  if d.isZero then sign ++ "0.0" else sign ++ format.layout (Decimal.shortest d)

end DecimalFormat

end ContentEngine
