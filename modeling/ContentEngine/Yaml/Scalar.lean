import ContentEngine.Text.Digit
import ContentEngine.Yaml.Placed

/-!
# Scalars in the flow of a text

A scalar is plain or quoted. Its words are joined by the folded gaps between them. A plain scalar
ends before `: `, before a comment, before a mark between documents and, in a block, at a line that
is not indented deeper than the block; in a flow collection the indicators of the collection end it.
A quoted scalar ends at its closing quote.
-/

namespace ContentEngine.Yaml

/-- How a scalar was written. -/
inductive ScalarStyle where
  | plain
  | quoted
  /-- A block scalar whose lines stay. -/
  | literal
  /-- A block scalar whose lines are joined. -/
  | folded
  deriving DecidableEq, Repr

/-! ## Plain scalars -/

/-- Where a scalar stands: inside a flow collection or not, and the least column of its lines in a
block. -/
structure ScalarPlace where
  inFlow : Bool
  indent : Nat
  deriving DecidableEq, Repr

/-- An indicator that ends a plain scalar in a flow collection. -/
def isFlowIndicator (c : Char) : Bool :=
  c == ',' || c == '[' || c == ']' || c == '{' || c == '}'

/-- A word of a plain scalar, and the text behind it. In a flow collection a colon must not be
followed by an indicator. -/
def plainWord? (inFlow : Bool) : List Placed → Option (List Char × List Placed)
  | [] => some ([], [])
  | p :: rest =>
    if isGap p.char then some ([], p :: rest)
    else if inFlow && p.char == ':' && goesOn (fun c => isFlowIndicator c || c == '?') rest then
      none
    else if (p.char == ':' && endsWord rest) || (inFlow && isFlowIndicator p.char) then
      some ([], p :: rest)
    else (plainWord? inFlow rest).map fun (word, behind) => (p.char :: word, behind)

/-- Whether a plain scalar ends behind the gap before `text`. -/
def ScalarPlace.stops (place : ScalarPlace) (text : List Placed) : Bool :=
  match text with
  | [] => true
  | p :: _ =>
    (!place.inFlow && decide (p.column < place.indent)) || startsWithDocumentMark text ||
      p.char == '#'

/-- Whether the gap before a text holds a tab where the indentation of a line is expected. -/
def ScalarPlace.hasStrayTab (place : ScalarPlace) (text : List Placed) : Bool :=
  ((text.takeWhile fun p => isGap p.char).dropWhile fun p => isBlank p.char).any fun p =>
    p.char == '\t' && decide (p.column < place.indent)

/-- A plain scalar, and whether a new line was begun behind it. -/
structure PlainScalar where
  text : List Char
  endsLine : Bool
  behind : List Placed

/-- The rest of a plain scalar behind one of its words. -/
def plainTail? (place : ScalarPlace) : Nat → List Placed → Option PlainScalar
  | 0, _ => none
  | fuel + 1, text =>
    if !goesOn isGap text then some ⟨[], false, text⟩
    else if place.hasStrayTab text then none
    else
      let (gap, behind) := Gap.split text
      if place.stops behind then some ⟨[], gap.isBroken, behind⟩
      else do
        let (word, behind) ← plainWord? place.inFlow behind
        if word.isEmpty then some ⟨[], gap.isBroken, behind⟩
        else
          let tail ← plainTail? place fuel behind
          some { tail with text := gap.folded ++ word ++ tail.text }

/-- The plain scalar at the start of a text. -/
def plainScalar? (place : ScalarPlace) (text : List Placed) : Option PlainScalar := do
  let (word, behind) ← plainWord? place.inFlow text
  let tail ← plainTail? place (behind.length + 1) behind
  some { tail with text := word ++ tail.text }

/-! ## Quoted scalars -/

/-- The character of a short escape. -/
def shortEscape? (c : Char) : Option Char :=
  match c with
  | '0' => some (Char.ofNat 0)
  | 'a' => some (Char.ofNat 7)
  | 'b' => some (Char.ofNat 8)
  | 't' | '\t' => some '\t'
  | 'n' => some '\n'
  | 'v' => some (Char.ofNat 11)
  | 'f' => some (Char.ofNat 12)
  | 'r' => some '\r'
  | 'e' => some (Char.ofNat 27)
  | ' ' => some ' '
  | '"' => some '"'
  | '/' => some '/'
  | '\\' => some '\\'
  | 'N' => some (Char.ofNat 0x85)
  | '_' => some (Char.ofNat 0xA0)
  | 'L' => some (Char.ofNat 0x2028)
  | 'P' => some (Char.ofNat 0x2029)
  | _ => none

/-- How many digits follow in an escape by number. -/
def numberEscape? (c : Char) : Option Nat :=
  match c with
  | 'x' => some 2
  | 'u' => some 4
  | 'U' => some 8
  | _ => none

/-- The character of the escape behind a backslash, and the text behind it. -/
def escape? : List Placed → Option (Char × List Placed)
  | [] => none
  | p :: rest =>
    match shortEscape? p.char with
    | some c => some (c, rest)
    | none => do
      let count ← numberEscape? p.char
      let number ← if count ≤ rest.length then Text.number? 16 (chars (rest.take count)) else none
      if number.isValidChar then some (Char.ofNat number, rest.drop count) else none

/-- What goes before a scalar's remaining text. -/
def prepend (before : List Char) : List Char × List Placed → List Char × List Placed
  | (text, behind) => (before ++ text, behind)

/-- The rest of a scalar in single or double quotes up to its closing quote. A single quote is
written twice; in double quotes a backslash starts an escape, and before a line end it joins the
lines. -/
def quotedTail? (quote : Char) : Nat → List Placed → Option (List Char × List Placed)
  | 0, _ => none
  | fuel + 1, text =>
    if startsWithDocumentMark text then none
    else
      match text with
      | [] => none
      | p :: rest =>
        if isGap p.char then
          let (gap, behind) := Gap.split text
          (quotedTail? quote fuel behind).map (prepend gap.folded)
        else if p.char == quote then
          if quote == '\'' && goesOn (· == '\'') rest then
            (quotedTail? quote fuel (rest.drop 1)).map (prepend [p.char])
          else some ([], rest)
        else if quote == '"' && p.char == '\\' then
          if goesOn isBreak rest then
            let (gap, behind) := Gap.split (rest.drop 1)
            (quotedTail? quote fuel behind).map (prepend gap.breaks)
          else do
            let (c, behind) ← escape? rest
            (quotedTail? quote fuel behind).map (prepend [c])
        else (quotedTail? quote fuel rest).map (prepend [p.char])

/-- The text of a quoted scalar, without the opening quote, and the text behind its closing
quote. -/
def quotedScalar? (quote : Char) (text : List Placed) : Option (List Char × List Placed) :=
  quotedTail? quote (text.length + 1) text

end ContentEngine.Yaml
