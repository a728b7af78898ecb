import ContentEngine.Yaml.Layout

/-!
# YAML documents

A text holds at most one document. Its nodes are scalars, sequences and mappings, and aliases of
nodes with an anchor. A node may be missing behind an indicator or its own anchor and tag; it is
then an empty plain scalar. Tags are written out with the handles that the directives of the
document declare.

An anchor is numbered by how many names were known before it. An alias has the number of its name at
that place, and stands for the last node of the document whose anchor has this number.

The steps into nodes and along collections are counted down from a bound, for which four times the
number of tokens suffices: at most four steps in a row leave the tokens as they are.
-/

namespace ContentEngine.Yaml

/-- A node of a document. -/
inductive Tree where
  | scalar (tag : Option String) (style : ScalarStyle) (text : String)
  | sequence (items : List Tree)
  | mapping (fields : List (Tree × Tree))
  /-- The node with an anchor of the given number. -/
  | alias (number : Nat)
  deriving Repr

/-- The node that stands where none is written. -/
def Tree.missing : Tree := scalar none .plain ""

/-- A document: its root, and the nodes with an anchor, the last one first. -/
structure Document where
  root : Tree
  anchored : List (Nat × Tree)
  deriving Repr

/-- The node itself, or the one that it is an alias of. -/
def Document.resolve (document : Document) : Tree → Tree
  | .alias number => (document.anchored.lookup number).getD .missing
  | tree => tree

/-! ## Tokens and anchors -/

/-- An anchor: its name, its number, and its position among the anchors of the document. -/
structure Anchor where
  name : String
  number : Nat
  position : Nat
  deriving DecidableEq, Repr

/-- What is known while the nodes of a document are read. -/
structure Composing where
  tokens : List Token
  /-- What each tag handle stands for. -/
  handles : List (String × String)
  /-- The anchors so far, the last one first. -/
  anchors : List Anchor
  /-- The nodes that are complete, under the positions of their anchors. -/
  nodes : List (Nat × Tree)

/-- Reads nodes from tokens. -/
abbrev Compose := StateT Composing Option

namespace Compose

/-- The next token, if there is one. -/
def peek : Compose (Option Token) := do
  return (← get).tokens.head?

/-- Takes the next token away. -/
def skip : Compose Unit :=
  modify fun s => { s with tokens := s.tokens.tail }

/-- Takes the next token away if it is `token`, and says whether it was. -/
def skipIf (token : Token) : Compose Bool := do
  if (← peek) == some token then
    skip
    return true
  else return false

/-- Takes the next token away, which has to be `token`. -/
def expect (token : Token) : Compose Unit := do
  unless ← skipIf token do failure

/-- Whether one of some tokens is next. -/
def nextIsOneOf (tokens : List Token) : Compose Bool := do
  return (← peek).any tokens.contains

/-- The node that `read` reads; it is missing if one of some tokens is next. -/
def unlessNext (tokens : List Token) (read : Compose Tree) : Compose Tree := do
  if ← nextIsOneOf tokens then return .missing else read

/-- The tag that a tag's name stands for; its handle must be known. -/
def tagOf (name : TagName) : Compose String := do
  if name.handle.isEmpty then return name.suffix
  else
    let start ← (← get).handles.lookup name.handle
    return start ++ name.suffix

/-- The tag at the next token, if there is one. -/
def tag? : Compose (Option String) := do
  match ← peek with
  | some (.tag name) =>
    skip
    return some (← tagOf name)
  | _ => return none

/-- Notes the anchor at the next token, if there is one. -/
def anchor? : Compose (Option Anchor) := do
  match ← peek with
  | some (.anchor name) =>
    skip
    let s ← get
    let known := (s.anchors.map Anchor.name).eraseDups.length
    let anchor : Anchor := ⟨name, known, s.anchors.length⟩
    set { s with anchors := anchor :: s.anchors }
    return some anchor
  | _ => return none

/-- The anchor and the tag of a node, in any order. -/
def properties : Compose (Option Anchor × Option String) := do
  match ← anchor? with
  | some anchor => return (some anchor, ← tag?)
  | none =>
    let tag ← tag?
    return (← anchor?, tag)

/-- The number of the anchor that an alias names. -/
def numberOf (name : String) : Compose Nat := do
  let anchor ← (← get).anchors.find? (·.name == name)
  return anchor.number

/-- Notes that the node of an anchor is complete. -/
def complete (anchor : Option Anchor) (tree : Tree) : Compose Unit :=
  match anchor with
  | some anchor => modify fun s => { s with nodes := (anchor.position, tree) :: s.nodes }
  | none => pure ()

/-! ## Nodes -/

mutual

/-- The node at the next token; `block` says whether it may be a block collection, and `indentless`
whether it may be a block sequence that is not indented. -/
def node (block indentless : Bool) : Nat → Compose Tree
  | 0 => failure
  | fuel + 1 => do
    match ← peek with
    | some (.alias name) =>
      skip
      return .alias (← numberOf name)
    | _ =>
      let (anchor, tag) ← properties
      let tree ← match ← content block indentless tag fuel with
        | some tree => pure tree
        | none => if anchor.isSome || tag.isSome then pure (.scalar tag .plain "") else failure
      complete anchor tree
      return tree

/-- The content of a node behind its anchor and tag, if it has any. -/
def content (block indentless : Bool) (tag : Option String) : Nat → Compose (Option Tree)
  | 0 => failure
  | fuel + 1 => do
    match ← peek with
    | some (.scalar text style) =>
      skip
      return some (.scalar tag style text)
    | some .flowSequenceStart =>
      skip
      if ← skipIf .flowSequenceEnd then return some (.sequence [])
      else return some (.sequence (← flowItems fuel))
    | some .flowMappingStart =>
      skip
      if ← skipIf .flowMappingEnd then return some (.mapping [])
      else return some (.mapping (← flowFields fuel))
    | some .blockSequenceStart =>
      if block then
        skip
        let items ← blockItems [.blockEntry, .blockEnd] fuel
        expect .blockEnd
        return some (.sequence items)
      else return none
    | some .blockMappingStart =>
      if block then
        skip
        let fields ← blockFields fuel
        expect .blockEnd
        return some (.mapping fields)
      else return none
    | some .blockEntry =>
      if indentless then
        return some (.sequence (← blockItems [.blockEntry, .key, .value, .blockEnd] fuel))
      else return none
    | _ => return none

/-- The rest of the items of a block sequence; an item is missing in front of some tokens. -/
def blockItems (missingBefore : List Token) : Nat → Compose (List Tree)
  | 0 => failure
  | fuel + 1 => do
    if ← skipIf .blockEntry then
      let item ← unlessNext missingBefore (node true false fuel)
      return item :: (← blockItems missingBefore fuel)
    else return []

/-- The rest of the fields of a block mapping. -/
def blockFields : Nat → Compose (List (Tree × Tree))
  | 0 => failure
  | fuel + 1 => do
    if ← skipIf .key then
      let key ← unlessNext [.key, .value, .blockEnd] (node true true fuel)
      let value ←
        if ← skipIf .value then unlessNext [.key, .value, .blockEnd] (node true true fuel)
        else pure .missing
      return (key, value) :: (← blockFields fuel)
    else return []

/-- The value of a field in a flow collection that ends with `close`. -/
def flowValue (close : Token) : Nat → Compose Tree
  | 0 => failure
  | fuel + 1 => do
    if ← skipIf .value then unlessNext [.flowEntry, close] (node false false fuel)
    else return .missing

/-- An item of a flow sequence. An item with a key is a mapping of one field; where its key is
missing, the token in its place is taken away. -/
def flowItem : Nat → Compose Tree
  | 0 => failure
  | fuel + 1 => do
    if ← skipIf .key then
      let key ←
        if ← nextIsOneOf [.value, .flowEntry, .flowSequenceEnd] then do
          skip
          pure .missing
        else node false false fuel
      return .mapping [(key, ← flowValue .flowSequenceEnd fuel)]
    else node false false fuel

/-- The items of a flow sequence from one of them on. -/
def flowItems : Nat → Compose (List Tree)
  | 0 => failure
  | fuel + 1 => do
    let item ← flowItem fuel
    if ← skipIf .flowSequenceEnd then return [item]
    else
      expect .flowEntry
      if ← skipIf .flowSequenceEnd then return [item]
      else return item :: (← flowItems fuel)

/-- A field of a flow mapping; a node alone is a key. -/
def flowField : Nat → Compose (Tree × Tree)
  | 0 => failure
  | fuel + 1 => do
    if ← skipIf .key then
      let key ← unlessNext [.value, .flowEntry, .flowMappingEnd] (node false false fuel)
      return (key, ← flowValue .flowMappingEnd fuel)
    else return (← node false false fuel, .missing)

/-- The fields of a flow mapping from one of them on. -/
def flowFields : Nat → Compose (List (Tree × Tree))
  | 0 => failure
  | fuel + 1 => do
    let field ← flowField fuel
    if ← skipIf .flowMappingEnd then return [field]
    else
      expect .flowEntry
      if ← skipIf .flowMappingEnd then return [field]
      else return field :: (← flowFields fuel)

end

/-! ## Documents -/

/-- The handles that are known without a directive. -/
def usualHandles : List (String × String) :=
  [("!", "!"), ("!!", "tag:yaml.org,2002:")]

/-- Reads directives up to the mark of the document's start. The version is 1.1 or 1.2, and neither
it nor the meaning of a handle is given twice. -/
def directives? (versioned : Bool) (handles : List (String × String)) :
    List Token → Option Composing
  | .version major minor :: rest =>
    if versioned || major != 1 || (minor != 1 && minor != 2) then none
    else directives? true handles rest
  | .tagDirective handle start :: rest =>
    if (handles.lookup handle).isSome then none
    else directives? versioned (handles ++ [(handle, start)]) rest
  | .documentStart :: rest => some ⟨rest, handles ++ usualHandles, [], []⟩
  | _ => none

/-- Whether a token belongs to no node. -/
def isBetweenDocuments : Token → Bool
  | .version .. | .tagDirective .. | .documentStart | .documentEnd => true
  | _ => false

/-- The root of a document and nothing behind it but marks of its end; behind a mark of its start,
the root may be missing. -/
def document (marked : Bool) (fuel : Nat) : Compose Document := do
  let root ←
    if marked && (← peek).all isBetweenDocuments then pure .missing else node true false fuel
  let s ← get
  if s.tokens.all (· == .documentEnd) then
    return ⟨root, s.anchors.filterMap fun anchor =>
      (s.nodes.lookup anchor.position).map fun tree => (anchor.number, tree)⟩
  else failure

end Compose

/-- The document of a list of tokens, if there is one in it, or a failure. -/
def Document.ofTokens? (tokens : List Token) : Option (Option Document) :=
  let fuel := 4 * tokens.length + 4
  match tokens with
  | [] => some none
  | .version .. :: _ | .tagDirective .. :: _ | .documentStart :: _ => do
    let opened ← Compose.directives? false [] tokens
    let (document, _) ← (Compose.document true fuel).run opened
    some (some document)
  | _ => do
    let (document, _) ← (Compose.document false fuel).run ⟨tokens, Compose.usualHandles, [], []⟩
    some (some document)

/-- The document of a text, if there is one in it, or a failure. -/
def Document.ofText? (text : String) : Option (Option Document) :=
  (tokens? text.toList).bind ofTokens?

end ContentEngine.Yaml
