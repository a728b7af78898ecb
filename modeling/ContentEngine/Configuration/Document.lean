import ContentEngine.Configuration.Settings
import ContentEngine.Decimal.Reading
import ContentEngine.Text.Cut
import ContentEngine.Text.Digit
import ContentEngine.Yaml.Tree

/-!
# Settings in documents

Settings are read from YAML texts and from files. In YAML a plain scalar can stand for a text, a
number or nothing, whichever the field asks for; a quoted one is always a text. Files whose
extension is `json` hold JSON, all others YAML.
-/

namespace ContentEngine.Settings

open Yaml (Tree ScalarStyle)

/-! ## Scalars -/

/-- Whether a scalar may be read as a value of the type with the given tag: it is plain, or a
literal with this tag. -/
def standsFor (type : String) (tag : Option String) (style : ScalarStyle) : Bool :=
  style == .plain || (style == .literal && tag == some type)

/-- The tag of integers. -/
def integerTag : String := "tag:yaml.org,2002:int"

/-- The tag of the value that is nothing. -/
def nullTag : String := "tag:yaml.org,2002:null"

/-- Whether a text is a word for nothing. -/
def isNullWord (text : String) : Bool :=
  text == "null" || text == "Null" || text == "NULL" || text == "~"

/-- The unsigned integer of 64 bits that a text stands for: hexadecimal, octal or binary behind
`0x`, `0o` or `0b`, or decimal without a zero in front, each behind at most one plus sign. -/
def naturalOf? (text : String) : Option Nat := do
  let cs := text.toList
  let unsigned := if ['+'].isPrefixOf cs then cs.drop 1 else cs
  let n ← match unsigned with
    | '0' :: 'x' :: digits => Text.number? 16 digits
    | '0' :: 'o' :: digits => Text.number? 8 digits
    | '0' :: 'b' :: digits => Text.number? 2 digits
    | ['0'] => some 0
    | '0' :: _ => none
    | digits => Text.number? 10 digits
  if n ≤ Decimal.maxUnsigned then some n else none

/-! ## YAML -/

/-- The text of a scalar. -/
def scalarText? (document : Yaml.Document) (tree : Tree) : Option String :=
  match document.resolve tree with
  | .scalar _ _ text => some text
  | _ => none

/-- The parts of a YAML document. The keys of a mapping have to be scalars, and a missing node
counts as a mapping without fields. -/
def yamlForm (document : Yaml.Document) : DocumentForm Tree where
  text? := scalarText? document
  textOrNull? tree :=
    match document.resolve tree with
    | .scalar tag .plain text =>
      if tag == some nullTag then if isNullWord text then some none else none
      else if tag.isNone && (text.isEmpty || isNullWord text) then some none
      else some (some text)
    | .scalar _ _ text => some (some text)
    | _ => none
  natural? tree :=
    match document.resolve tree with
    | .scalar tag style text => if standsFor integerTag tag style then naturalOf? text else none
    | _ => none
  fields? _ tree :=
    match document.resolve tree with
    | .mapping fields => fields.mapM fun (key, value) =>
      (scalarText? document key).map fun name => (name, value)
    | .scalar _ .plain "" => some []
    | _ => none

/-- The settings of a YAML text; without a document in it, all of them are left out. -/
def ofYaml (freshId text : String) : Except Fault Settings :=
  let settings : Option Settings :=
    match Yaml.Document.ofText? text with
    | none => none
    | some none => some (default freshId)
    | some (some document) => ofDocument? (yamlForm document) freshId document.root
  match settings with
  | some s => s.validated
  | none => .error (.invalidConfiguration "Failed to parse YAML")

/-! ## Files -/

/-- What follows the last dot of a file's name, unless the name starts with it. -/
def extension? (name : String) : Option String :=
  match Text.cutLast '.' name.toList with
  | some (_ :: _, after) => some (String.ofList after)
  | _ => none

/-- The settings of a file of the given name, whose content may be unreadable. -/
def ofFile (freshId name : String) (content : Option String) : Except Fault Settings :=
  match content with
  | none => .error (.invalidConfiguration "Failed to read")
  | some text => if extension? name = some "json" then ofJson freshId text else ofYaml freshId text

end ContentEngine.Settings
