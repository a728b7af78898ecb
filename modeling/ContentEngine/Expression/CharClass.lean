import ContentEngine.Text.Property

/-!
# Character classes

The text between the brackets of a class is a list of characters, ranges and named properties,
negated as a whole by a leading `^`. Lists are combined from left to right by `&&` (both), `--`
(the first only) and `~~` (exactly one). A hyphen is itself at the start, before the closing
bracket and where no range can begin. A backslash takes away the meaning of punctuation, and
before a letter names a character or a property.
-/

namespace ContentEngine.Expression

open Text (CodePoints)

/-- A set of characters, and how deep its text is nested. -/
structure CharClass where
  characters : CodePoints
  nesting : Nat
  deriving DecidableEq, Repr

/-- How two lists of entries are combined. -/
inductive ClassOperator where
  | both
  | firstOnly
  | exactlyOne
  deriving DecidableEq, Repr

namespace ClassOperator

/-- Whether a character belongs to a combination, given whether it belongs to the two sides. -/
def join : ClassOperator → Bool → Bool → Bool
  | both, p, q => p && q
  | firstOnly, p, q => p && !q
  | exactlyOne, p, q => p != q

end ClassOperator

namespace CharClass

/-- Whether a character belongs to the class. -/
def contains (k : CharClass) (c : Char) : Bool :=
  k.characters.contains c

/-- The class of a list of entries; a list of several is one level. -/
def ofEntries (entries : List CodePoints) : CharClass :=
  ⟨entries.foldl CodePoints.union .empty, if 2 ≤ entries.length then 1 else 0⟩

/-- The combination of two classes is one level above both. -/
def combined (operator : ClassOperator) (left right : CharClass) : CharClass :=
  ⟨.combine operator.join left.characters right.characters, 1 + max left.nesting right.nesting⟩

/-- The class of a text between brackets, which are one level above what they enclose. -/
def inBrackets (negated : Bool) (k : CharClass) : CharClass :=
  ⟨if negated then k.characters.complement else k.characters, 1 + k.nesting⟩

/-! ## Reading the text between the brackets -/

/-- A character, or a property that no range can begin or end with. -/
inductive Primitive where
  | char (c : Char)
  | property (characters : CodePoints)

/-- The entry of a primitive that stands alone. -/
def Primitive.entry : Primitive → CodePoints
  | char c => .between c.toNat c.toNat
  | property characters => characters

/-- The character of a hexadecimal number, if there is one. -/
def charOfHex? (digits : List Char) : Option Char := do
  let n ← Text.number? 16 digits
  if n.isValidChar then some (Char.ofNat n) else none

/-- A character written by its number: in braces, or with exactly `width` digits. -/
def hexEscape? (width : Nat) (cs : List Char) : Option (Primitive × List Char) :=
  match cs with
  | '\x7b' :: rest =>
    match rest.span (· ≠ '\x7d') with
    | (_, []) => none
    | ([], _) => none
    | (digits, _ :: after) => (charOfHex? digits).map fun c => (.char c, after)
  | _ =>
    if cs.length < width then none
    else (charOfHex? (cs.take width)).map fun c => (.char c, cs.drop width)

/-- A property after its `p` or `P`: one letter, or a text in braces. -/
def propertyEscape? (cs : List Char) : Option (CodePoints × List Char) :=
  match cs with
  | [] => none
  | '\x7b' :: rest =>
    match rest.span (· ≠ '\x7d') with
    | (_, []) => none
    | (name, _ :: after) => (Text.Property.ofText? name).map (·, after)
  | c :: rest => (Text.Property.ofName? [c]).map (·, rest)

/-- The property that a letter after a backslash names, and the text after it; an upper case letter
names the characters without the property. -/
def property? (letter : Char) (rest : List Char) : Option (CodePoints × List Char) :=
  match letter with
  | 'd' => some (Text.ofCategories ["Nd"], rest)
  | 's' => some (Text.blanks, rest)
  | 'w' => some (Text.wordCharacters, rest)
  | 'p' => propertyEscape? rest
  | 'D' => some ((Text.ofCategories ["Nd"]).complement, rest)
  | 'S' => some (Text.blanks.complement, rest)
  | 'W' => some (Text.wordCharacters.complement, rest)
  | 'P' => (propertyEscape? rest).map fun found => (found.1.complement, found.2)
  | _ => none

/-- What an escaped character and the text after it stand for. -/
def escape? (c : Char) (rest : List Char) : Option (Primitive × List Char) :=
  match c with
  | 'x' => hexEscape? 2 rest
  | 'u' => hexEscape? 4 rest
  | 'U' => hexEscape? 8 rest
  | 'a' => some (.char (Char.ofNat 7), rest)
  | 'f' => some (.char (Char.ofNat 12), rest)
  | 't' => some (.char '\t', rest)
  | 'n' => some (.char '\n', rest)
  | 'r' => some (.char '\r', rest)
  | 'v' => some (.char (Char.ofNat 11), rest)
  | _ =>
    if c.isAlphanum then (property? c rest).map fun found => (.property found.1, found.2)
    else if c = '<' ∨ c = '>' ∨ 128 ≤ c.toNat then none
    else some (.char c, rest)

/-- One primitive and the text after it. -/
def primitive? : List Char → Option (Primitive × List Char)
  | [] => none
  | '\\' :: c :: rest => escape? c rest
  | '\\' :: [] => none
  | c :: rest => some (.char c, rest)

/-- One entry and the text after it: a range if a hyphen follows that is neither the last
character nor followed by another hyphen. -/
def entry? (cs : List Char) : Option (CodePoints × List Char) := do
  let (first, rest) ← primitive? cs
  match rest with
  | '-' :: next :: more =>
    if next = '-' then some (first.entry, rest)
    else
      let (last, after) ← primitive? (next :: more)
      match first, last with
      | .char a, .char b => if a ≤ b then some (.between a.toNat b.toNat, after) else none
      | _, _ => none
  | _ => some (first.entry, rest)

/-- The operator at the start of a text. -/
def operator? : List Char → Option (ClassOperator × List Char)
  | '&' :: '&' :: rest => some (.both, rest)
  | '-' :: '-' :: rest => some (.firstOnly, rest)
  | '~' :: '~' :: rest => some (.exactlyOne, rest)
  | _ => none

/-- The class with the entries on the right of its last operator. -/
def close (pending : Option (ClassOperator × CharClass)) (entries : List CodePoints) : CharClass :=
  match pending with
  | none => ofEntries entries
  | some (operator, left) => combined operator left (ofEntries entries)

/-- The class of a text, of which at most `fuel` entries and operators are read. -/
def readEntries? : Nat → Option (ClassOperator × CharClass) → List CodePoints → List Char →
    Option CharClass
  | 0, _, _, _ => none
  | fuel + 1, pending, entries, cs =>
    if cs.isEmpty then some (close pending entries)
    else
      match operator? cs with
      | some (operator, rest) => readEntries? fuel (some (operator, close pending entries)) [] rest
      | none =>
        match entry? cs with
        | some (entry, rest) => readEntries? fuel pending (entries ++ [entry]) rest
        | none => none

/-- The class of the text between two brackets; `none` if the text is no class. A class without
any entry is refused, but one whose operators have empty sides is not. -/
def read? (content : List Char) : Option CharClass :=
  let (negated, cs) :=
    match content with
    | '^' :: rest => (true, rest)
    | other => (false, other)
  if cs.isEmpty then none
  else
    let hyphens := cs.takeWhile (· = '-')
    let rest := cs.dropWhile (· = '-')
    (readEntries? (rest.length + 1) none (hyphens.map fun _ => .between 0x2D 0x2D) rest).map
      (inBrackets negated)

end CharClass

end ContentEngine.Expression
