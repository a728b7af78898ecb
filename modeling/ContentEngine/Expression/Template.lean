import ContentEngine.NodePath
import ContentEngine.Text.Digit

/-!
# Output templates

A template is a text with placeholders. A placeholder is a group number in braces, one or more
decimal digits, and stands for the text of that group; a group that does not exist is empty. All
other characters, other braces included, stand for themselves, and inserted text is not searched
again.
-/

namespace ContentEngine.Expression

/-- The text of a numbered group; empty if there is no such group. -/
def groupOf (groups : List (List Char)) (digits : List Char) : List Char :=
  groups.getD (Text.decimal digits) []

/-- The filled rest of a template, where `pending` holds the digits read since an opening brace. -/
def fillFrom (groups : List (List Char)) : Option (List Char) → List Char → List Char
  | none, [] => []
  | some digits, [] => '\x7b' :: digits
  | none, c :: rest =>
    if c = '\x7b' then fillFrom groups (some []) rest else c :: fillFrom groups none rest
  | some digits, c :: rest =>
    if c.isDigit then fillFrom groups (some (digits ++ [c])) rest
    else if c = '\x7d' ∧ digits ≠ [] then groupOf groups digits ++ fillFrom groups none rest
    else if c = '\x7b' then '\x7b' :: digits ++ fillFrom groups (some []) rest
    else '\x7b' :: digits ++ c :: fillFrom groups none rest

/-- The template with its placeholders filled. -/
def fill (groups : List (List Char)) (template : List Char) : List Char :=
  fillFrom groups none template

/-- The path that the filled template names. -/
def substitute (groups : List (List Char)) (template : String) : Except PathError NodePath :=
  NodePath.parse (String.ofList (fill groups template.toList))

end ContentEngine.Expression
