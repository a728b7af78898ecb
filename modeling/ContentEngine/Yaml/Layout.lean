import ContentEngine.Yaml.Block
import ContentEngine.Yaml.Token

/-!
# The layout of a YAML text

Where the block collections of a text begin and end follows from its columns, and whether a node is
the key of a mapping is known only at the colon behind it. So the tokens are read together with the
columns of the open block collections and with the places where a key may have started; when the
colon comes, the tokens that open the mapping and the key are put in at that place. Such a key must
stand on one line and must not be longer than 1024 characters.

Each step takes at least one character, so the length of a text bounds their number.
-/

namespace ContentEngine.Yaml

/-- A place where a key may have started: the number of tokens before it, its line and column, and
whether nothing but a key can stand there. -/
structure KeyStart where
  number : Nat
  line : Nat
  column : Nat
  required : Bool
  deriving DecidableEq, Repr

/-- What is known of a text up to some place. -/
structure Layout where
  /-- The tokens, the last one first. -/
  tokens : List Token
  /-- The columns of the open block collections, the innermost first. -/
  columns : List Nat
  /-- Whether a key may start with the next token. -/
  keyAllowed : Bool
  /-- The key that may have started in the innermost collection. -/
  key : Option KeyStart
  /-- The same for the collections around the open flow collections, the innermost first. -/
  outerKeys : List (Option KeyStart)
  deriving DecidableEq, Repr

namespace Layout

/-- The layout before the first character. -/
def start : Layout := ⟨[], [], true, none, []⟩

/-- Whether a flow collection is open. -/
def inFlow (layout : Layout) : Bool :=
  !layout.outerKeys.isEmpty

/-- The layout with one more token. -/
def put (layout : Layout) (token : Token) : Layout :=
  { layout with tokens := token :: layout.tokens }

/-- The layout in which a key may or may not start with the next token. -/
def allowKey (layout : Layout) (allowed : Bool) : Layout :=
  { layout with keyAllowed := allowed }

/-- Where plain scalars stand at this place. -/
def scalarPlace (layout : Layout) : ScalarPlace where
  inFlow := layout.inFlow
  indent := match layout.columns with
    | [] => 0
    | column :: _ => column + 1

/-! ## Keys -/

/-- Gives up the key that may have started, unless it is required. -/
def dropKey? (layout : Layout) : Option Layout :=
  if layout.key.any KeyStart.required then none else some { layout with key := none }

/-- Notes that a key may start at `p`, if it may. -/
def startKey? (layout : Layout) (p : Placed) : Option Layout :=
  if layout.keyAllowed then do
    let layout ← layout.dropKey?
    let required := !layout.inFlow && layout.columns.head? == some p.column
    some { layout with key := some ⟨layout.tokens.length, p.line, p.column, required⟩ }
  else some layout

/-- Whether a key that started at some place can no longer end at `p`. -/
def isPast (p : Placed) (key : KeyStart) : Bool :=
  decide (key.line < p.line) || decide (key.column + 1024 < p.column)

/-- Gives up the keys that can no longer end at `p`; none of them may be required. -/
def expireKeys? (layout : Layout) (p : Placed) : Option Layout :=
  if (layout.key :: layout.outerKeys).any (·.any fun key => key.required && isPast p key) then none
  else
    some { layout with
      key := layout.key.filter (!isPast p ·)
      outerKeys := layout.outerKeys.map (·.filter (!isPast p ·)) }

/-! ## Block collections -/

/-- The layout with a block collection opened at a column, unless one is open there or a flow
collection is; its token is put in behind the first `number` tokens. -/
def openBlock (layout : Layout) (column number : Nat) (token : Token) : Layout :=
  if !layout.inFlow && layout.columns.head?.all (· < column) then
    let later := layout.tokens.length - number
    { layout with
      tokens := layout.tokens.take later ++ token :: layout.tokens.drop later
      columns := column :: layout.columns }
  else layout

/-- The layout with the block collections closed that satisfy `past`. -/
def closeBlocks (layout : Layout) (past : Nat → Bool) : Layout :=
  if layout.inFlow then layout
  else
    { layout with
      tokens := List.replicate (layout.columns.takeWhile past).length .blockEnd ++ layout.tokens
      columns := layout.columns.dropWhile past }

/-- The layout with an indicator of a block collection at `p`, which opens the collection if need
be. -/
def blockIndicator? (layout : Layout) (p : Placed) (opening : Token) : Option Layout :=
  if layout.inFlow then some layout
  else if layout.keyAllowed then
    some (layout.openBlock p.column layout.tokens.length opening)
  else none

/-! ## Indicators -/

/-- The layout at the end of the text or at a line that belongs to no node. -/
def leaveNodes? (layout : Layout) : Option Layout :=
  (·.allowKey false) <$> (layout.closeBlocks fun _ => true).dropKey?

/-- The layout with a flow collection opened at `p`. -/
def openFlow? (layout : Layout) (p : Placed) (token : Token) : Option Layout := do
  let layout ← layout.startKey? p
  some { layout.put token with
    keyAllowed := true
    key := none
    outerKeys := layout.key :: layout.outerKeys }

/-- The layout with a flow collection closed. -/
def closeFlow? (layout : Layout) (token : Token) : Option Layout := do
  let layout := (← layout.dropKey?).put token |>.allowKey false
  some <| match layout.outerKeys with
    | [] => layout
    | key :: keys => { layout with key := key, outerKeys := keys }

/-- The layout with the entry of a block sequence at `p`. -/
def blockEntry? (layout : Layout) (p : Placed) : Option Layout := do
  let layout ← layout.blockIndicator? p .blockSequenceStart
  some (((← layout.dropKey?).put .blockEntry).allowKey true)

/-- The layout with the mark of a key at `p`. -/
def keyMark? (layout : Layout) (p : Placed) : Option Layout := do
  let layout ← layout.blockIndicator? p .blockMappingStart
  some (((← layout.dropKey?).put Token.key).allowKey (!layout.inFlow))

/-- The layout with the mark of a value at `p`. If a key may have started, it has. -/
def valueMark? (layout : Layout) (p : Placed) : Option Layout :=
  match layout.key with
  | some key =>
    let later := layout.tokens.length - key.number
    let layout := { layout with
      tokens := layout.tokens.take later ++ Token.key :: layout.tokens.drop later
      key := none }
    some (((layout.openBlock key.column key.number .blockMappingStart).put .value).allowKey false)
  | none => do
    let layout ← layout.blockIndicator? p .blockMappingStart
    some ((layout.put .value).allowKey (!layout.inFlow))

/-! ## Tokens -/

/-- The text at the next token, and the layout there: blanks, comments and the ends of lines are
passed. Tabs are not passed where a line's indentation is read. -/
def nextToken (layout : Layout) (comment : Bool) : List Placed → Layout × List Placed
  | [] => (layout, [])
  | p :: rest =>
    if isBreak p.char then
      nextToken (if layout.inFlow then layout else layout.allowKey true) false rest
    else if comment then nextToken layout true rest
    else if p.char == ' ' || (p.char == '\t' && (layout.inFlow || !layout.keyAllowed)) then
      nextToken layout false rest
    else if p.char == '#' then nextToken layout true rest
    else (layout, p :: rest)

/-- A directive or a mark between documents at the start of a line. -/
def documentToken? (layout : Layout) (text : List Placed) : Option (Layout × List Placed) := do
  let layout ← layout.leaveNodes?
  if startsWithMark '-' text then some (layout.put .documentStart, text.drop 3)
  else if startsWithMark '.' text then some (layout.put .documentEnd, text.drop 3)
  else
    let (directive, behind) ← directive? (text.drop 1)
    some (layout.put directive, behind)

/-- What is said about a node, with `p` in front of it. -/
def nodeToken? (layout : Layout) (p : Placed) (rest : List Placed) :
    Option (Layout × List Placed) := do
  let layout := (← layout.startKey? p).allowKey false
  if p.char == '*' then
    let (name, behind) ← anchorName? rest
    some (layout.put (.alias name), behind)
  else if p.char == '&' then
    let (name, behind) ← anchorName? rest
    some (layout.put (.anchor name), behind)
  else
    let (name, behind) ← tagName? rest
    if endsWord behind || (layout.inFlow && goesOn (· == ',') behind) then
      some (layout.put (.tag name), behind)
    else none

/-- A quoted scalar whose opening quote is `p`. -/
def quotedToken? (layout : Layout) (p : Placed) (rest : List Placed) :
    Option (Layout × List Placed) := do
  let layout := (← layout.startKey? p).allowKey false
  let (text, behind) ← quotedScalar? p.char rest
  some (layout.put (.scalar (String.ofList text) .quoted), behind)

/-- A block scalar of a style, behind its indicator. -/
def blockToken? (layout : Layout) (style : ScalarStyle) (rest : List Placed) :
    Option (Layout × List Placed) := do
  let layout := (← layout.dropKey?).allowKey true
  let (text, behind) ← Block.scalar? style layout.columns.head? rest
  some (layout.put (.scalar (String.ofList text) style), behind)

/-- Whether a plain scalar may start with `p`. -/
def startsPlain (layout : Layout) (p : Placed) (rest : List Placed) : Bool :=
  if p.char == '-' then !goesOn isBlank rest
  else if p.char == '?' || p.char == ':' then !layout.inFlow && !endsWord rest
  else !isGap p.char && !",[]\x7b\x7d#&*!|>'\"%@\x60".toList.contains p.char

/-- A plain scalar that starts with `p`. A key may start behind it if it ended with its line. -/
def plainToken? (layout : Layout) (p : Placed) (rest : List Placed) :
    Option (Layout × List Placed) :=
  if layout.startsPlain p rest then do
    let layout := (← layout.startKey? p).allowKey false
    let scalar ← plainScalar? layout.scalarPlace (p :: rest)
    some ((layout.put (.scalar (String.ofList scalar.text) .plain)).allowKey scalar.endsLine,
      scalar.behind)
  else none

/-- The token that starts with `p`, which begins no blank and no comment. -/
def token? (layout : Layout) (p : Placed) (rest : List Placed) : Option (Layout × List Placed) :=
  let taken (layout : Option Layout) : Option (Layout × List Placed) := layout.map (·, rest)
  let c := p.char
  if (p.column == 0 && c == '%') || startsWithDocumentMark (p :: rest) then
    layout.documentToken? (p :: rest)
  else if c == '[' then taken (layout.openFlow? p .flowSequenceStart)
  else if c == '\x7b' then taken (layout.openFlow? p .flowMappingStart)
  else if c == ']' then taken (layout.closeFlow? .flowSequenceEnd)
  else if c == '\x7d' then taken (layout.closeFlow? .flowMappingEnd)
  else if c == ',' then
    taken (layout.dropKey?.map fun layout => (layout.put .flowEntry).allowKey true)
  else if c == '-' && endsWord rest then taken (layout.blockEntry? p)
  else if c == '?' && (layout.inFlow || endsWord rest) then taken (layout.keyMark? p)
  else if c == ':' && (layout.inFlow || endsWord rest) then taken (layout.valueMark? p)
  else if c == '*' || c == '&' || c == '!' then layout.nodeToken? p rest
  else if c == '|' && !layout.inFlow then layout.blockToken? .literal rest
  else if c == '>' && !layout.inFlow then layout.blockToken? .folded rest
  else if c == '\'' || c == '"' then layout.quotedToken? p rest
  else layout.plainToken? p rest

/-- The layout of the rest of a text. -/
def readFrom? : Nat → Layout → List Placed → Option Layout
  | 0, _, _ => none
  | fuel + 1, layout, text =>
    match layout.nextToken false text with
    | (layout, []) => layout.leaveNodes?
    | (layout, p :: rest) => do
      let layout ← layout.expireKeys? p
      let (layout, behind) ← (layout.closeBlocks (p.column < ·)).token? p rest
      readFrom? fuel layout behind

end Layout

/-- The tokens of a text. -/
def tokens? (text : List Char) : Option (List Token) := do
  let placed ← placed? text
  let layout ← Layout.readFrom? (placed.length + 1) .start placed
  some layout.tokens.reverse

end ContentEngine.Yaml
