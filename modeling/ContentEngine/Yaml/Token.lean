import ContentEngine.Yaml.Scalar

/-!
# Tokens of a YAML text

A token is an indicator, a scalar, or what is said about a node or a document in front of it: an
anchor, a tag, an alias, a directive. The block indicators of a text say where its block
collections begin and end; their tokens are written out here as if they were brackets.
-/

namespace ContentEngine.Yaml

/-- The tag of a node as it is written: a handle, which stands for the beginning of the tag, and the
rest. -/
structure TagName where
  handle : String
  suffix : String
  deriving DecidableEq, Repr

/-- A token of a YAML text. -/
inductive Token where
  /-- `%YAML` -/
  | version (major minor : Nat)
  /-- `%TAG`, which gives a handle its meaning. -/
  | tagDirective (handle start : String)
  | documentStart
  | documentEnd
  | blockSequenceStart
  | blockMappingStart
  | blockEnd
  | flowSequenceStart
  | flowSequenceEnd
  | flowMappingStart
  | flowMappingEnd
  | blockEntry
  | flowEntry
  | key
  | value
  | alias (name : String)
  | anchor (name : String)
  | tag (name : TagName)
  | scalar (text : String) (style : ScalarStyle)
  deriving DecidableEq, Repr

/-! ## Anchors and aliases -/

/-- The name behind `&` or `*`, which must end there. -/
def anchorName? (text : List Placed) : Option (String × List Placed) :=
  let (name, behind) := spanOf isNameChar text
  let mayFollow (c : Char) : Bool := isGap c || "?:,]\x7d%@\x60".toList.contains c
  if !name.isEmpty && (behind.isEmpty || goesOn mayFollow behind) then
    some (String.ofList name, behind)
  else none

/-! ## Tags -/

/-- A character that stands for itself in a tag; some do so only in brackets and directives. -/
def isTagChar (bracketed : Bool) (c : Char) : Bool :=
  isNameChar c || ";/?:@&=+$.!~*'()".toList.contains c || (bracketed && ",[]".toList.contains c)

/-- An octet written with a percent sign and two digits. -/
def octet? : List Placed → Option (Nat × List Placed)
  | p :: a :: b :: rest =>
    if p.char = '%' then (Text.number? 16 [a.char, b.char]).map fun octet => (octet, rest) else none
  | _ => none

/-- How many octets follow the first octet of a character. -/
def followingOctets? (octet : Nat) : Option Nat :=
  if octet < 0x80 then some 0
  else if octet < 0xC0 then none
  else if octet < 0xE0 then some 1
  else if octet < 0xF0 then some 2
  else if octet < 0xF8 then some 3
  else none

/-- The following octets of a character, each of them as a character. -/
def octets? : Nat → List Placed → Option (List Char × List Placed)
  | 0, text => some ([], text)
  | count + 1, text => do
    let (octet, behind) ← octet? text
    if octet < 0x80 ∨ 0xC0 ≤ octet then none
    else (octets? count behind).map (prepend [Char.ofNat octet])

/-- The rest of a tag. Its escapes stand for octets. -/
def tagTail? (bracketed : Bool) : Nat → List Placed → Option (List Char × List Placed)
  | 0, _ => none
  | _ + 1, [] => some ([], [])
  | fuel + 1, p :: rest =>
    if p.char = '%' then do
      let (octet, behind) ← octet? (p :: rest)
      let (octets, behind) ← octets? (← followingOctets? octet) behind
      (tagTail? bracketed fuel behind).map (prepend (Char.ofNat octet :: octets))
    else if isTagChar bracketed p.char then
      (tagTail? bracketed fuel rest).map (prepend [p.char])
    else some ([], p :: rest)

/-- The characters of a tag at the start of a text; nothing counts from an escaped NUL on. -/
def tagText? (bracketed : Bool) (text : List Placed) : Option (String × List Placed) :=
  (tagTail? bracketed (text.length + 1) text).map fun (cs, behind) =>
    (String.ofList (cs.takeWhile (·.toNat ≠ 0)), behind)

/-- The characters of a tag, at least one. -/
def someTagText? (bracketed : Bool) (text : List Placed) : Option (String × List Placed) :=
  if goesOn (fun c => isTagChar bracketed c || c == '%') text then tagText? bracketed text else none

/-- The tag behind `!`: in angle brackets as it is, behind a handle, or local to the document. -/
def tagName? (text : List Placed) : Option (TagName × List Placed) :=
  if goesOn (· == '<') text then do
    let (suffix, behind) ← someTagText? true (text.drop 1)
    if goesOn (· == '>') behind then some (⟨"", suffix⟩, behind.drop 1) else none
  else
    let (name, behind) := spanOf isNameChar text
    if goesOn (· == '!') behind then do
      let (suffix, behind) ← someTagText? false (behind.drop 1)
      some (⟨"!" ++ String.ofList name ++ "!", suffix⟩, behind)
    else do
      let (more, behind) ← tagText? false behind
      let suffix := String.ofList name ++ more
      some (if suffix.isEmpty then ⟨"", "!"⟩ else ⟨"!", suffix⟩, behind)

/-! ## Directives -/

/-- What is left of a text behind its blanks. -/
def skipBlanks (text : List Placed) : List Placed :=
  text.dropWhile fun p => isBlank p.char

/-- A number of up to nine digits. -/
def versionPart? (text : List Placed) : Option (Nat × List Placed) :=
  let (digits, behind) := spanOf Char.isDigit text
  if digits.length ≤ 9 then (Text.number? 10 digits).map fun n => (n, behind) else none

/-- The version of a `%YAML` directive. -/
def version? (text : List Placed) : Option (Token × List Placed) := do
  let (major, behind) ← versionPart? (skipBlanks text)
  if goesOn (· == '.') behind then
    let (minor, behind) ← versionPart? (behind.drop 1)
    some (.version major minor, behind)
  else none

/-- The handle of a `%TAG` directive. -/
def directiveHandle? : List Placed → Option (String × List Placed)
  | [] => none
  | p :: rest =>
    let (name, behind) := spanOf isNameChar rest
    if p.char ≠ '!' then none
    else if goesOn (· == '!') behind then
      some ("!" ++ String.ofList name ++ "!", behind.drop 1)
    else if name.isEmpty then some ("!", behind)
    else none

/-- The handle of a `%TAG` directive and what it stands for. -/
def tagMeaning? (text : List Placed) : Option (Token × List Placed) := do
  let (handle, behind) ← directiveHandle? (skipBlanks text)
  if goesOn isBlank behind then
    let (start, behind) ← someTagText? true (skipBlanks behind)
    if endsWord behind then some (.tagDirective handle start, behind) else none
  else none

/-- The directive behind `%`, which takes up its line. -/
def directive? (text : List Placed) : Option (Token × List Placed) := do
  let (name, behind) := spanOf isNameChar text
  if endsWord behind then
    let (directive, behind) ← match String.ofList name with
      | "YAML" => version? behind
      | "TAG" => tagMeaning? behind
      | _ => none
    some (directive, ← closeLine? behind)
  else none

end ContentEngine.Yaml
