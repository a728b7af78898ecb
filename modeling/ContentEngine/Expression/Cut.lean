import ContentEngine.Expression.CharClass
import ContentEngine.Expression.Token

/-!
# Cutting a text along tokens

A selection matches a text if the text can be cut into consecutive pieces, one for each token. Of
several cuts the one counts whose piece lengths are greatest from left to right.

Whether the tokens from some point on match a suffix of the text is computed once for all suffixes,
from the last token to the first: a *row* holds one truth value for each suffix, longest first. The
cut is then read off from left to right, each wildcard taking the longest piece after which the
tokens behind it still match.
-/

namespace ContentEngine.Expression

/-- A token with its class resolved. -/
abbrev Element := Token CharClass

namespace Element

/-- Whether a character may stand in the piece of a token. -/
def admits : Element → Char → Bool
  | .literal c, d => c == d
  | .segmentRun, d => d != '/'
  | .pathRun, d => d != '\n'
  | .single, d => d != '/'
  | .groupOpen, _ => false
  | .groupClose, _ => false
  | .oneOf characters, d => characters.contains d

/-- How long the piece of a token is. -/
inductive Extent where
  | empty
  | one
  | run
  deriving DecidableEq

/-- How long the piece of a token is: parentheses take no text, wildcards of runs any length. -/
def extent : Element → Extent
  | .literal _ => .one
  | .segmentRun => .run
  | .pathRun => .run
  | .single => .one
  | .groupOpen => .empty
  | .groupClose => .empty
  | .oneOf _ => .one

end Element

/-- The first truth value of a row. -/
def rowHead (row : List Bool) : Bool :=
  row.headD false

/-- The row of no tokens: only the empty suffix matches. -/
def endRow (cs : List Char) : List Bool :=
  List.replicate cs.length false ++ [true]

/-- The row of one character that satisfies `admits`, given the row of what follows. -/
def oneRow (admits : Char → Bool) : List Char → List Bool → List Bool
  | c :: cs, _ :: next => (admits c && rowHead next) :: oneRow admits cs next
  | _, _ => [false]

/-- The row of a run of characters that satisfy `admits`, given the row of what follows. -/
def runRow (admits : Char → Bool) : List Char → List Bool → List Bool
  | c :: cs, here :: next =>
    let rest := runRow admits cs next
    (here || (admits c && rowHead rest)) :: rest
  | _, here :: _ => [here]
  | _, [] => [false]

/-- The row of a token in front of others. -/
def rowBefore (e : Element) (cs : List Char) (next : List Bool) : List Bool :=
  match e.extent with
  | .empty => next
  | .one => oneRow e.admits cs next
  | .run => runRow e.admits cs next

/-- The rows of all lists of tokens that remain after some number of them, the longest list
first. -/
def rows (cs : List Char) : List Element → List (List Bool)
  | [] => [endRow cs]
  | e :: rest =>
    let later := rows cs rest
    rowBefore e cs (later.headD []) :: later

/-- The length of the longest run of admitted characters after which the row holds. -/
def longestRun? (admits : Char → Bool) : List Char → List Bool → Option Nat
  | c :: cs, here :: next =>
    match if admits c then longestRun? admits cs next else none with
    | some n => some (n + 1)
    | none => if here then some 0 else none
  | [], here :: _ => if here then some 0 else none
  | _, [] => none

/-- The length of the piece of a token, given the row of what follows. -/
def pieceLength? (e : Element) (cs : List Char) (next : List Bool) : Option Nat :=
  match e.extent with
  | .empty => if rowHead next then some 0 else none
  | .one =>
    match cs with
    | c :: _ => if e.admits c && rowHead (next.drop 1) then some 1 else none
    | [] => none
  | .run => longestRun? e.admits cs next

/-- The pieces along the tokens, given the rows of what follows each of them. -/
def cutAlong : List Element → List (List Bool) → List Char → Option (List (List Char))
  | [], _, cs => if cs.isEmpty then some [] else none
  | _ :: _, [], _ => none
  | e :: rest, next :: later, cs =>
    match pieceLength? e cs next with
    | none => none
    | some n =>
      (cutAlong rest (later.map (List.drop n)) (cs.drop n)).map (cs.take n :: ·)

/-- The pieces of the text along the tokens, longest first; `none` if the text cannot be cut. -/
def cut? (elements : List Element) (cs : List Char) : Option (List (List Char)) :=
  let all := rows cs elements
  if rowHead (all.headD []) then cutAlong elements (all.drop 1) cs else none

/-! ## Groups of a cut -/

/-- A token with its piece. -/
abbrev Placed := Element × List Char

/-- The text up to the parenthesis that closes the innermost of `depth + 1` open groups. -/
def groupText (depth : Nat) : List Placed → List Char
  | [] => []
  | (.groupClose, _) :: rest => if depth = 0 then [] else groupText (depth - 1) rest
  | (.groupOpen, _) :: rest => groupText (depth + 1) rest
  | (_, piece) :: rest => piece ++ groupText depth rest

/-- The texts of the numbered groups, in the order in which they open. -/
def groupTexts : List Placed → List (List Char)
  | [] => []
  | (.groupOpen, _) :: rest => groupText 0 rest :: groupTexts rest
  | (.segmentRun, piece) :: rest => piece :: groupTexts rest
  | (.pathRun, piece) :: rest => piece :: groupTexts rest
  | (.single, piece) :: rest => piece :: groupTexts rest
  | (.groupClose, _) :: rest => groupTexts rest
  | (.literal _, _) :: rest => groupTexts rest
  | (.oneOf _, _) :: rest => groupTexts rest

/-- The text and its groups, if the text can be cut. -/
def groups? (elements : List Element) (cs : List Char) : Option (List (List Char)) :=
  (cut? elements cs).map fun pieces => cs :: groupTexts (elements.zip pieces)

end ContentEngine.Expression
