/-!
# Digits

Numbers are written in bases up to 16, with ASCII digits and, from ten on, letters of either case.
-/

namespace ContentEngine.Text

/-- The value of a hexadecimal digit. -/
def hexDigit? (c : Char) : Option Nat :=
  if '0' ≤ c ∧ c ≤ '9' then some (c.toNat - 48)
  else if 'a' ≤ c ∧ c ≤ 'f' then some (c.toNat - 87)
  else if 'A' ≤ c ∧ c ≤ 'F' then some (c.toNat - 55)
  else none

/-- The value of a digit in a base. -/
def digit? (base : Nat) (c : Char) : Option Nat :=
  (hexDigit? c).filter (· < base)

/-- The number with the given digits, the highest first. -/
def numberOf (base : Nat) (digits : List Nat) : Nat :=
  digits.foldl (fun n d => n * base + d) 0

/-- The number that a text stands for if it consists of digits, at least one. -/
def number? (base : Nat) (text : List Char) : Option Nat :=
  if text.isEmpty then none else (text.mapM (digit? base)).map (numberOf base)

/-- The number of a text of decimal digits. -/
def decimal (text : List Char) : Nat :=
  numberOf 10 (text.filterMap (digit? 10))

end ContentEngine.Text
