import ContentEngine.Expression.Size
import ContentEngine.Expression.Template
import ContentEngine.Text.Blank

/-!
# Path expressions

A path expression has a selection and an optional output, separated by `=>`:

    /files/*.pdf                    selection only
    /files/(**)/*.pdf => /out/{1}   selection with its own output template

A selection is matched against the whole text of a path. Wildcards and explicit groups are
numbered from 1 in the order in which they open, and group 0 is the whole path. Expressions are
equal if they are written alike.
-/

namespace ContentEngine

namespace Expression

/-- How deep a selection may be nested. -/
def nestingLimit : Nat := 250

/-- How many levels a token that is not a parenthesis adds. -/
def elementNesting : Element → Nat
  | .literal _ => 0
  | .segmentRun => 3
  | .pathRun => 2
  | .single => 2
  | .groupOpen => 0
  | .groupClose => 0
  | .oneOf characters => characters.nesting

/-- The members seen of a group, and the depth of the deepest one. -/
structure OpenGroup where
  members : Nat
  deepest : Nat

namespace OpenGroup

/-- One more member of the given depth. -/
def add (g : OpenGroup) (depth : Nat) : OpenGroup :=
  ⟨g.members + 1, max g.deepest depth⟩

/-- The depth of a closed group: one level for the group, one more if it has several members. -/
def depth (g : OpenGroup) : Nat :=
  1 + (if 2 ≤ g.members then 1 else 0) + g.deepest

end OpenGroup

/-- How deep a selection is nested, given its open groups, innermost first. -/
def nestingFrom : List OpenGroup → List Element → Nat
  | [], _ => 0
  | [g], [] => 1 + g.deepest
  | g :: _, [] => g.depth
  | g :: outer, .groupOpen :: rest => nestingFrom (⟨0, 0⟩ :: g :: outer) rest
  | g :: outer, .groupClose :: rest =>
    match outer with
    | [] => nestingFrom [g] rest
    | parent :: more => nestingFrom (parent.add g.depth :: more) rest
  | g :: outer, e :: rest => nestingFrom (g.add (elementNesting e) :: outer) rest

/-- How deep a selection is nested. -/
def nesting (elements : List Element) : Nat :=
  nestingFrom [⟨0, 0⟩] elements

/-- Why a text between brackets, or a whole selection, cannot be used. -/
inductive Refusal where
  | noClass (content : String)
  | tooDeep
  | tooLarge
  deriving DecidableEq, Repr

namespace Refusal

/-- The text of a refusal. -/
def message : Refusal → String
  | noClass content => "regex parse error: [" ++ content ++ "] is not a character class"
  | tooDeep => "regex parse error: nested more than 250 levels deep"
  | tooLarge => "Compiled regex exceeds size limit of " ++ toString sizeLimit ++ " bytes."

end Refusal

/-- Why a text is no path expression. -/
inductive CompileFault where
  | empty
  | notAbsolute (expression : String)
  | missingOutput (expression : String)
  | unclosedBracket (expression : String) (position : Nat)
  | nestedBracket (expression : String) (position : Nat)
  | unbalancedParentheses (expression : String)
  | danglingEscape (expression : String)
  | invalid (expression : String) (refusal : Refusal)
  deriving DecidableEq, Repr

namespace CompileFault

/-- How the messages name an expression. -/
def named (expression : String) : String :=
  "path expression '" ++ expression ++ "'"

/-- The text of a fault. -/
def message : CompileFault → String
  | empty => "path expression is empty"
  | notAbsolute e => named e ++ " must select an absolute path"
  | missingOutput e => named e ++ " has no output after '=>'"
  | unclosedBracket e p => named e ++ " has an unclosed '[' at position " ++ toString p
  | nestedBracket e p =>
    named e ++ " nests '[' inside a character class at position " ++ toString p
  | unbalancedParentheses e => named e ++ " has unbalanced parentheses"
  | danglingEscape e => named e ++ " ends with a dangling escape"
  | invalid e refusal => named e ++ " is invalid: " ++ refusal.message

/-- The fault of an expression whose selection is at fault. -/
def ofSelection (expression : String) : SelectionFault → CompileFault
  | .unclosedBracket p => unclosedBracket expression p
  | .nestedBracket p => nestedBracket expression p
  | .unbalancedParentheses => unbalancedParentheses expression
  | .danglingEscape => danglingEscape expression

end CompileFault

/-- The selection and the output of a trimmed expression. -/
def splitOutput (cs : List Char) : List Char × Option (List Char) :=
  match Text.cutOnce ['=', '>'] cs with
  | some (before, after) => (Text.trim before, some (Text.trim after))
  | none => (cs, none)

/-- The class of the text between two brackets. -/
def readClass (content : List Char) : Except Refusal CharClass :=
  match CharClass.read? content with
  | some k => .ok k
  | none => .error (.noClass (String.ofList content))

/-- The tokens with their classes read. -/
def resolve : List (Token (List Char)) → Except Refusal (List Element)
  | [] => .ok []
  | t :: rest =>
    match t.resolve readClass, resolve rest with
    | .ok e, .ok es => .ok (e :: es)
    | .error r, _ => .error r
    | _, .error r => .error r

/-- The resolved tokens, unless they are nested too deep or too large. -/
def elements (ts : List (Token (List Char))) : Except Refusal (List Element) :=
  match resolve ts with
  | .error r => .error r
  | .ok es =>
    if nestingLimit < nesting es then .error .tooDeep
    else if sizeLimit < size es then .error .tooLarge
    else .ok es

end Expression

/-- A compiled path expression. -/
structure PathExpression where
  /-- The expression as it was written, trimmed. -/
  expression : String
  selection : String
  /-- The output template of the expression itself. -/
  output : Option String
  elements : List Expression.Element
  deriving DecidableEq

namespace PathExpression

open Expression

/-- Compiles a text. -/
def compile (text : String) : Except CompileFault PathExpression :=
  let cs := Text.trim text.toList
  let written := String.ofList cs
  if cs.isEmpty then .error .empty
  else
    let (selection, output) := splitOutput cs
    if output = some [] then .error (.missingOutput written)
    else if selection.head? ≠ some '/' then .error (.notAbsolute written)
    else
      match tokens selection with
      | .error fault => .error (.ofSelection written fault)
      | .ok ts =>
        match Expression.elements ts with
        | .error refusal => .error (.invalid written refusal)
        | .ok es => .ok ⟨written, String.ofList selection, output.map String.ofList, es⟩

/-- The number of groups besides group 0. -/
def groupCount (e : PathExpression) : Nat :=
  e.elements.countP Token.isCapturing

/-- The groups of a match with a path, group 0 first. -/
def groups? (e : PathExpression) (path : NodePath) : Option (List (List Char)) :=
  Expression.groups? e.elements path.text.toList

/-- Whether the expression matches a path. -/
def isMatch (e : PathExpression) (path : NodePath) : Bool :=
  (e.groups? path).isSome

/-- Expressions are the same if they are written alike. -/
def same (a b : PathExpression) : Bool :=
  a.expression == b.expression

end PathExpression

end ContentEngine
