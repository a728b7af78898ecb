import ContentEngine.Text.Blank
import ContentEngine.Text.Cut
import ContentEngine.Text.Letter
import ContentEngine.Text.Script

/-!
# Named properties of characters

A property is named by itself, by a general category or by a script; the kind may be said before
the name. Case, blanks, hyphens, underscores and a leading `is` do not count in names.
-/

namespace ContentEngine.Text.Property

/-- The names of unions of general categories, in lower case without separators. -/
def categoryNames : List (List String × List String) := [
  (["c", "other"], ["Cc", "Cf", "Cn", "Co"]),
  (["cc", "control", "cntrl"], ["Cc"]),
  (["cf", "format"], ["Cf"]),
  (["cn", "unassigned"], ["Cn"]),
  (["co", "privateuse"], ["Co"]),
  (["l", "letter"], ["Lu", "Ll", "Lt", "Lm", "Lo"]),
  (["lc", "casedletter"], ["Lu", "Ll", "Lt"]),
  (["ll", "lowercaseletter"], ["Ll"]),
  (["lm", "modifierletter"], ["Lm"]),
  (["lo", "otherletter"], ["Lo"]),
  (["lt", "titlecaseletter"], ["Lt"]),
  (["lu", "uppercaseletter"], ["Lu"]),
  (["m", "mark", "combiningmark"], ["Mn", "Mc", "Me"]),
  (["mc", "spacingmark"], ["Mc"]),
  (["me", "enclosingmark"], ["Me"]),
  (["mn", "nonspacingmark"], ["Mn"]),
  (["n", "number"], ["Nd", "Nl", "No"]),
  (["nd", "decimalnumber", "digit"], ["Nd"]),
  (["nl", "letternumber"], ["Nl"]),
  (["no", "othernumber"], ["No"]),
  (["p", "punctuation", "punct"], ["Pc", "Pd", "Ps", "Pe", "Pi", "Pf", "Po"]),
  (["pc", "connectorpunctuation"], ["Pc"]),
  (["pd", "dashpunctuation"], ["Pd"]),
  (["pe", "closepunctuation"], ["Pe"]),
  (["pf", "finalpunctuation"], ["Pf"]),
  (["pi", "initialpunctuation"], ["Pi"]),
  (["po", "otherpunctuation"], ["Po"]),
  (["ps", "openpunctuation"], ["Ps"]),
  (["s", "symbol"], ["Sm", "Sc", "Sk", "So"]),
  (["sc", "currencysymbol"], ["Sc"]),
  (["sk", "modifiersymbol"], ["Sk"]),
  (["sm", "mathsymbol"], ["Sm"]),
  (["so", "othersymbol"], ["So"]),
  (["z", "separator"], ["Zs", "Zl", "Zp"]),
  (["zl", "lineseparator"], ["Zl"]),
  (["zp", "paragraphseparator"], ["Zp"]),
  (["zs", "spaceseparator"], ["Zs"])]

/-- The hexadecimal digits of ASCII. -/
def asciiHexDigits : CodePoints := ⟨[0x30, 0x3A, 0x41, 0x47, 0x61, 0x67]⟩

/-- The hexadecimal digits, wide ones included. -/
def hexDigits : CodePoints :=
  asciiHexDigits.union ⟨[0xFF10, 0xFF1A, 0xFF21, 0xFF27, 0xFF41, 0xFF47]⟩

/-- A name in lower case, without a leading `is` and without blanks, hyphens, underscores and
characters outside ASCII. -/
def plainName (name : List Char) : String :=
  let isForm := (name.take 2).map Char.toLower == ['i', 's']
  let plain := ((if isForm then name.drop 2 else name).filter fun c =>
    c != ' ' && c != '-' && c != '_' && decide (c.toNat < 128)).map Char.toLower
  String.ofList (if isForm && plain == ['c'] then ['i', 's', 'c'] else plain)

/-- The union of general categories of a name. -/
def ofCategoryName? (plain : String) : Option CodePoints :=
  match plain with
  | "any" => some .full
  | "assigned" => some (ofCategories ["Cn"]).complement
  | "ascii" => some (.between 0 0x7F)
  | _ => (categoryNames.find? fun entry => entry.1.contains plain).map fun entry =>
    ofCategories entry.2

/-- The script of a name. -/
def ofScriptName? (plain : String) : Option CodePoints :=
  (scriptNames.find? fun entry => entry.1.contains plain).map fun entry => ofScript entry.2

/-- The property of a name. -/
def ofName? (name : List Char) : Option CodePoints :=
  match plainName name with
  | "whitespace" | "space" | "wspace" => some blanks
  | "alphabetic" | "alpha" => some alphabetic
  | "lowercase" | "lower" => some lowercase
  | "uppercase" | "upper" => some uppercase
  | "hexdigit" | "hex" => some hexDigits
  | "asciihexdigit" | "ahex" => some asciiHexDigits
  | plain => (ofCategoryName? plain).or (ofScriptName? plain)

/-- The property of a general category or a script that is named together with its kind. -/
def ofPair? (kind name : List Char) : Option CodePoints :=
  match plainName kind with
  | "gc" | "generalcategory" => ofCategoryName? (plainName name)
  | "sc" | "script" => ofScriptName? (plainName name)
  | _ => none

/-- The property of a kind and a name, or of a name alone, with `=`, `:` or `!=` between the two;
`!=` takes the characters without the property. -/
def ofText? (text : List Char) : Option CodePoints :=
  match cutOnce ['!', '='] text with
  | some (kind, name) => (ofPair? kind name).map CodePoints.complement
  | none =>
    match cutOnce [':'] text with
    | some (kind, name) => ofPair? kind name
    | none =>
      match cutOnce ['='] text with
      | some (kind, name) => ofPair? kind name
      | none => ofName? text

end ContentEngine.Text.Property
