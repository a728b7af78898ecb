import ContentEngine.Decimal.Double
import ContentEngine.Table

/-!
# Property values

A property holds a value: nothing, a truth value, a number, a text, a list or an object. Numbers
that are integers of 64 bits stay integers and all others are doubles, so `1` and `1.0` are
different values. The fields of an object are a table, sorted by name.
-/

namespace ContentEngine

/-- A property value. -/
inductive Value where
  | null
  | bool (b : Bool)
  | int (n : Int)
  | double (d : Double)
  | text (s : String)
  | list (items : List Value)
  | object (fields : List (String × Value))
  deriving Repr, Inhabited

/-- Named values, sorted by name. -/
abbrev Properties := Table String Value

namespace Value

mutual

/-- Equality of values; doubles are compared as numbers, integers and doubles never agree. -/
def agrees : Value → Value → Bool
  | null, null => true
  | bool a, bool b => a == b
  | int a, int b => a == b
  | double a, double b => a.agrees b
  | text a, text b => a == b
  | list a, list b => agreesAll a b
  | object a, object b => agreesFields a b
  | _, _ => false

/-- Equality of lists of values. -/
def agreesAll : List Value → List Value → Bool
  | [], [] => true
  | a :: as, b :: bs => agrees a b && agreesAll as bs
  | _, _ => false

/-- Equality of lists of named values. -/
def agreesFields : List (String × Value) → List (String × Value) → Bool
  | [], [] => true
  | a :: as, b :: bs => a.1 == b.1 && agrees a.2 b.2 && agreesFields as bs
  | _, _ => false

end

instance : BEq Value := ⟨agrees⟩

mutual

/-- The value with the fields of every object sorted; of two fields with one name the later
counts. -/
def canonical : Value → Value
  | list items => list (canonicalAll items)
  | object fields => object (Table.ofList (canonicalFields fields))
  | other => other

/-- `canonical` for every member of a list. -/
def canonicalAll : List Value → List Value
  | [] => []
  | v :: rest => canonical v :: canonicalAll rest

/-- `canonical` for every field. -/
def canonicalFields : List (String × Value) → List (String × Value)
  | [] => []
  | f :: rest => (f.1, canonical f.2) :: canonicalFields rest

end

/-- The text of a text value. -/
def asText? : Value → Option String
  | text s => some s
  | _ => none

/-- The integer of an integer value that is not negative. -/
def asNat? : Value → Option Nat
  | int n => if 0 ≤ n then some n.toNat else none
  | _ => none

/-- The truth value of a truth value. -/
def asBool? : Value → Option Bool
  | bool b => some b
  | _ => none

/-- The field of an object. -/
def field? (v : Value) (name : String) : Option Value :=
  match v with
  | object fields => Table.get? fields name
  | _ => none

/-- The object of the given fields, sorted by name. -/
def ofFields (fields : List (String × Value)) : Value :=
  object (Table.ofList fields)

/-- The value of an optional text: `null` if there is none. -/
def ofText? : Option String → Value
  | some s => text s
  | none => null

/-- The integer value of a natural number. -/
def ofNat (n : Nat) : Value :=
  int n

end Value

end ContentEngine
