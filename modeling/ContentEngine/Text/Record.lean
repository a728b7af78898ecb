import ContentEngine.Text.Category
import ContentEngine.Text.Cut

/-!
# Record texts

Components describe themselves for diagnosis as a name and fields in braces,
`Name { field: value }`, with texts in double quotes. Inside quotes the quote, the backslash and
the usual control characters are written with a backslash, and characters that cannot be shown by
their number.
-/

namespace ContentEngine.Text

/-- The hexadecimal digits of a number, in lower case. -/
def hexDigits (n : Nat) : List Char :=
  Nat.toDigits 16 n

/-- The characters that change the character before them though they are spacing marks or letters:
the property `Other_Grapheme_Extend`. -/
def spacingExtenders : List Nat := [
  0x9BE, 0x9D7, 0xB3E, 0xB57, 0xBBE, 0xBD7, 0xCC2, 0xCD5, 0xCD6, 0xD3E, 0xD57, 0xDCF, 0xDDF, 0x1B35,
  0x302E, 0x302F, 0xFF9E, 0xFF9F, 0x1133E, 0x11357, 0x114B0, 0x114BD, 0x115AF, 0x11930, 0x1D165,
  0x1D16E, 0x1D16F, 0x1D170, 0x1D171, 0x1D172]

/-- Whether a character cannot be shown as it is: controls, format characters, separators other than
the space, private and unassigned code points, and marks that change the character before them. -/
def isHidden (c : Char) : Bool :=
  let n := c.toNat
  if n < 128 then n < 0x20 || n == 0x7F
  else ["Cc", "Cf", "Co", "Cs", "Cn", "Zs", "Zl", "Zp", "Mn", "Me"].contains (category c) ||
    spacingExtenders.contains n

/-- The form of one character inside quotes. -/
def quotedChar (c : Char) : List Char :=
  if c = '"' then ['\\', '"']
  else if c = '\\' then ['\\', '\\']
  else if c = '\n' then ['\\', 'n']
  else if c = '\r' then ['\\', 'r']
  else if c = '\t' then ['\\', 't']
  else if c.toNat = 0 then ['\\', '0']
  else if isHidden c then ['\\', 'u', '\x7b'] ++ hexDigits c.toNat ++ ['\x7d']
  else [c]

/-- A text in quotes. -/
def inQuotes (s : String) : String :=
  "\"" ++ String.ofList (s.toList.flatMap quotedChar) ++ "\""

/-- An optional text in quotes. -/
def optionInQuotes : Option String → String
  | some s => "Some(" ++ inQuotes s ++ ")"
  | none => "None"

/-- A list of texts in quotes. -/
def listInQuotes (texts : List String) : String :=
  "[" ++ joined ", " (texts.map inQuotes) ++ "]"

/-- The text of a record: its name, and its fields with their texts. -/
def record (name : String) (fields : List (String × String)) : String :=
  name ++ " \x7b " ++ joined ", " (fields.map fun field => field.1 ++ ": " ++ field.2) ++ " \x7d"

end ContentEngine.Text
