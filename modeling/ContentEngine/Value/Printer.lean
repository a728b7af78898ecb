import ContentEngine.Decimal.Shortest
import ContentEngine.Value.Basic

/-!
# The text of a value

Values are written compactly: no blanks between tokens, fields in the order of the table, texts
in double quotes with the characters below `U+0020`, the quote and the backslash escaped and all
others as they are. Integers are written in decimal, doubles by `Value.numbers`.
-/

namespace ContentEngine.Value

/-- Doubles are written positionally if their leading digit has an exponent from -5 to 15. -/
def numbers : DecimalFormat := ⟨-5, 15⟩

/-- The hexadecimal digit of a number below sixteen, in lower case. -/
def hexDigit (n : Nat) : Char :=
  Nat.digitChar n

/-- The written form of one character of a text. -/
def escaped (c : Char) : List Char :=
  if c = '"' then ['\\', '"']
  else if c = '\\' then ['\\', '\\']
  else if c = '\n' then ['\\', 'n']
  else if c = '\r' then ['\\', 'r']
  else if c = '\t' then ['\\', 't']
  else if c.toNat = 8 then ['\\', 'b']
  else if c.toNat = 12 then ['\\', 'f']
  else if c.toNat < 32 then ['\\', 'u', '0', '0', hexDigit (c.toNat / 16), hexDigit (c.toNat % 16)]
  else [c]

/-- The written form of a text. -/
def quoted (s : String) : String :=
  "\"" ++ String.ofList (s.toList.flatMap escaped) ++ "\""

mutual

/-- The written form of a value. -/
def render : Value → String
  | null => "null"
  | bool b => if b then "true" else "false"
  | int n => toString n
  | double d => numbers.text d
  | text s => quoted s
  | list items => "[" ++ renderItems items ++ "]"
  | object fields => "\x7b" ++ renderFields fields ++ "\x7d"

/-- The written forms of the members of a list, with commas between them. -/
def renderItems : List Value → String
  | [] => ""
  | [v] => render v
  | v :: rest => render v ++ "," ++ renderItems rest

/-- The written forms of the fields of an object, with commas between them. -/
def renderFields : List (String × Value) → String
  | [] => ""
  | [f] => quoted f.1 ++ ":" ++ render f.2
  | f :: rest => quoted f.1 ++ ":" ++ render f.2 ++ "," ++ renderFields rest

end

/-- The text of a value inside a message: a text as it is, nothing for `null`, and all others in
their written form. -/
def plainText? : Value → Option String
  | null => none
  | text s => some s
  | other => some (render other)

end ContentEngine.Value
