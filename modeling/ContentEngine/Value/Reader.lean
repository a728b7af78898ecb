import ContentEngine.Decimal.Reading
import ContentEngine.Text.Digit
import ContentEngine.Value.Basic

/-!
# Reading values

A value is read from its written form (RFC 8259). Blanks are the space, the tab and the two line
ends, a text must not hold raw control characters, and nothing but blanks may follow the value. An
object keeps its fields as they are written; `Value.read?` sorts them.

Each step is bounded by a number of values that may still be read, for which the length of the
text suffices.
-/

namespace ContentEngine.Value.Reader

/-- What is left of the text without the blanks in front. -/
def skipBlanks (cs : List Char) : List Char :=
  cs.dropWhile fun c => c = ' ' || c = '\t' || c = '\n' || c = '\r'

/-- The number of four hexadecimal digits. -/
def hexQuad? : List Char → Option (Nat × List Char)
  | a :: b :: c :: d :: rest => (Text.number? 16 [a, b, c, d]).map fun n => (n, rest)
  | _ => none

/-- The character after an escape that starts with `u`; the two halves of a pair stand for one
character, and half a pair is refused. -/
def escapedUnit? (cs : List Char) : Option (Char × List Char) := do
  let (first, rest) ← hexQuad? cs
  if first < 0xD800 ∨ 0xDFFF < first then some (Char.ofNat first, rest)
  else if 0xDC00 ≤ first then none
  else
    match rest with
    | '\\' :: 'u' :: more =>
      let (second, after) ← hexQuad? more
      if 0xDC00 ≤ second ∧ second ≤ 0xDFFF then
        some (Char.ofNat (0x10000 + (first - 0xD800) * 1024 + (second - 0xDC00)), after)
      else none
    | _ => none

/-- The character of a short escape. -/
def shortEscape? (c : Char) : Option Char :=
  if c = '"' ∨ c = '\\' ∨ c = '/' then some c
  else if c = 'b' then some (Char.ofNat 8)
  else if c = 'f' then some (Char.ofNat 12)
  else if c = 'n' then some '\n'
  else if c = 'r' then some '\r'
  else if c = 't' then some '\t'
  else none

/-- The rest of a text up to its closing quote. -/
def textTail? : Nat → List Char → List Char → Option (String × List Char)
  | 0, _, _ => none
  | fuel + 1, read, cs =>
    match cs with
    | [] => none
    | '"' :: rest => some (String.ofList read.reverse, rest)
    | '\\' :: 'u' :: rest =>
      match escapedUnit? rest with
      | some (c, after) => textTail? fuel (c :: read) after
      | none => none
    | '\\' :: e :: rest =>
      match shortEscape? e with
      | some c => textTail? fuel (c :: read) rest
      | none => none
    | '\\' :: [] => none
    | c :: rest => if c.toNat < 32 then none else textTail? fuel (c :: read) rest

/-- The leading decimal digits, and what follows them. -/
def digits (cs : List Char) : List Nat × List Char :=
  (cs.takeWhile Char.isDigit |>.filterMap (Text.digit? 10), cs.dropWhile Char.isDigit)

/-- The exponent behind an `e`: sign, digits and what follows. -/
def exponent? (cs : List Char) : Option (Int × List Char) :=
  let (negative, cs) :=
    match cs with
    | '-' :: rest => (true, rest)
    | '+' :: rest => (false, rest)
    | other => (false, other)
  match digits cs with
  | ([], _) => none
  | (ds, rest) =>
    let n : Nat := ds.foldl (fun n d => n * 10 + d) 0
    some (if negative then -(n : Int) else n, rest)

/-- The exponent if one is written, else zero. -/
def exponentPart? : List Char → Option (Int × Bool × List Char)
  | 'e' :: rest => (exponent? rest).map fun (e, after) => (e, true, after)
  | 'E' :: rest => (exponent? rest).map fun (e, after) => (e, true, after)
  | rest => some (0, false, rest)

/-- The number of an integer without fraction and exponent: an integer if it has 64 bits, and a
negative zero is a double. -/
def wholeNumber? (negative : Bool) (ds : List Nat) : Option Value :=
  let g := ds.foldl Decimal.Gathered.addWhole ⟨0, 0, false⟩
  if g.full then (Decimal.toDouble? negative g.significand g.exponent).map .double
  else if ¬ negative then some (.int g.significand)
  else if g.significand = 0 ∨ 0x8000000000000000 < g.significand then
    (Decimal.toDouble? true g.significand 0).map .double
  else some (.int (-(g.significand : Int)))

/-- A number after its sign. -/
def number? (negative : Bool) (cs : List Char) : Option (Value × List Char) :=
  match digits cs with
  | ([], _) => none
  | (0 :: _ :: _, _) => none
  | (ds, '.' :: rest) =>
    match digits rest with
    | ([], _) => none
    | (fs, rest) => do
      let whole := ds.foldl Decimal.Gathered.addWhole ⟨0, 0, false⟩
      let all := fs.foldl Decimal.Gathered.addFraction whole
      let (e, _, rest) ← exponentPart? rest
      let d ← Decimal.toDouble? negative all.significand (all.exponent + e)
      some (.double d, rest)
  | (ds, rest) => do
    let (e, written, rest) ← exponentPart? rest
    if written then
      let whole := ds.foldl Decimal.Gathered.addWhole ⟨0, 0, false⟩
      let d ← Decimal.toDouble? negative whole.significand (whole.exponent + e)
      some (.double d, rest)
    else
      let v ← wholeNumber? negative ds
      some (v, rest)

/-- What follows `word`, if the text starts with it. -/
def after? (word : String) (cs : List Char) : Option (List Char) :=
  if word.toList.isPrefixOf cs then some (cs.drop word.length) else none

mutual

/-- One value and the text after it. -/
def value? : Nat → List Char → Option (Value × List Char)
  | 0, _ => none
  | fuel + 1, cs =>
    match skipBlanks cs with
    | [] => none
    | '"' :: rest => (textTail? (rest.length + 1) [] rest).map fun (s, after) => (.text s, after)
    | '[' :: rest =>
      match skipBlanks rest with
      | ']' :: after => some (.list [], after)
      | other => (items? fuel [] other).map fun (vs, after) => (.list vs, after)
    | '\x7b' :: rest =>
      match skipBlanks rest with
      | '\x7d' :: after => some (.object [], after)
      | other => (fields? fuel [] other).map fun (fs, after) => (.object fs, after)
    | '-' :: rest => number? true rest
    | 't' :: rest => (after? "rue" rest).map fun after => (.bool true, after)
    | 'f' :: rest => (after? "alse" rest).map fun after => (.bool false, after)
    | 'n' :: rest => (after? "ull" rest).map fun after => (.null, after)
    | c :: rest => number? false (c :: rest)

/-- The members of a list up to its closing bracket. -/
def items? : Nat → List Value → List Char → Option (List Value × List Char)
  | 0, _, _ => none
  | fuel + 1, read, cs =>
    match value? fuel cs with
    | none => none
    | some (v, after) =>
      match skipBlanks after with
      | ',' :: rest => items? fuel (v :: read) rest
      | ']' :: rest => some ((v :: read).reverse, rest)
      | _ => none

/-- The fields of an object up to its closing brace. -/
def fields? : Nat → List (String × Value) → List Char →
    Option (List (String × Value) × List Char)
  | 0, _, _ => none
  | fuel + 1, read, cs =>
    match skipBlanks cs with
    | '"' :: rest =>
      match textTail? (rest.length + 1) [] rest with
      | none => none
      | some (name, after) =>
        match skipBlanks after with
        | ':' :: rest =>
          match value? fuel rest with
          | none => none
          | some (v, after) =>
            match skipBlanks after with
            | ',' :: rest => fields? fuel ((name, v) :: read) rest
            | '\x7d' :: rest => some (((name, v) :: read).reverse, rest)
            | _ => none
        | _ => none
    | _ => none

end

/-- The value of a text that holds one value and blanks only besides it. -/
def document? (s : String) : Option Value := do
  let cs := s.toList
  let (v, rest) ← value? (2 * cs.length + 2) cs
  if (skipBlanks rest).isEmpty then some v else none

end ContentEngine.Value.Reader

namespace ContentEngine

/-- Reads a value; objects are sorted by field name and the last of equal names counts. -/
def Value.read? (s : String) : Option Value :=
  (Value.Reader.document? s).map Value.canonical

end ContentEngine
