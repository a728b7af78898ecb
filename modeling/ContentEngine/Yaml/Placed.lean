/-!
# The characters of a YAML text

A YAML text is laid out in lines and columns, so its characters are placed before anything else is
read from it. The line ends CR LF, CR and NEL count as a line feed; the line and the paragraph
separator end lines too, but stay what they are. A byte order mark in front is not part of the
text.
-/

namespace ContentEngine.Yaml

/-- A character at its line and column, both counted from zero. -/
structure Placed where
  char : Char
  line : Nat
  column : Nat
  deriving DecidableEq, Repr

/-! ## Classes of characters -/

/-- A character that may stand in a YAML text. -/
def isPrintable (c : Char) : Bool :=
  let n := c.toNat
  n == 0x09 || n == 0x0A || n == 0x0D || (0x20 ≤ n && n ≤ 0x7E) || n == 0x85 ||
    (0xA0 ≤ n && n ≤ 0xD7FF) || (0xE000 ≤ n && n ≤ 0xFFFD) || 0x10000 ≤ n

/-- The end of a line. -/
def isBreak (c : Char) : Bool :=
  c == '\n' || c.toNat == 0x2028 || c.toNat == 0x2029

/-- A space or a tab. -/
def isBlank (c : Char) : Bool :=
  c == ' ' || c == '\t'

/-- A blank or the end of a line. -/
def isGap (c : Char) : Bool :=
  isBlank c || isBreak c

/-- A character of a name: an ASCII letter or digit, `_` or `-`. -/
def isNameChar (c : Char) : Bool :=
  c.isAlphanum || c == '_' || c == '-'

/-! ## Placing -/

/-- The byte order mark. -/
def byteOrderMark : Char := Char.ofNat 0xFEFF

/-- The text without one byte order mark in front. -/
def withoutMark : List Char → List Char
  | [] => []
  | c :: rest => if c = byteOrderMark then rest else c :: rest

/-- The text with each of CR LF, CR and NEL written as a line feed. -/
def unifyBreaks : List Char → List Char
  | [] => []
  | '\r' :: '\n' :: rest => '\n' :: unifyBreaks rest
  | c :: rest => (if c = '\r' ∨ c.toNat = 0x85 then '\n' else c) :: unifyBreaks rest

/-- The characters of a text that starts at the given place. -/
def placeFrom (line column : Nat) : List Char → List Placed
  | [] => []
  | c :: rest =>
    ⟨c, line, column⟩ ::
      if isBreak c then placeFrom (line + 1) 0 rest else placeFrom line (column + 1) rest

/-- The placed characters of a text, if all of them may stand in one. A second byte order mark is
dropped too, but takes a column. -/
def placed? (text : List Char) : Option (List Placed) :=
  if text.all isPrintable then
    match placeFrom 0 0 (unifyBreaks (withoutMark text)) with
    | [] => some []
    | p :: rest => some (if p.char = byteOrderMark then rest else p :: rest)
  else none

/-! ## Looking ahead -/

/-- Whether a text goes on with a character of the class. -/
def goesOn (class? : Char → Bool) : List Placed → Bool
  | [] => false
  | p :: _ => class? p.char

/-- Whether a text goes on with a blank or the end of a line, or is at its end. -/
def endsWord : List Placed → Bool
  | [] => true
  | p :: _ => isGap p.char

/-- Whether a text goes on with the same mark character three times, as a word at the start of a
line. -/
def startsWithMark (mark : Char) : List Placed → Bool
  | a :: b :: c :: rest =>
    a.column == 0 && a.char == mark && b.char == mark && c.char == mark && endsWord rest
  | _ => false

/-- Whether a text goes on with a mark between documents, `---` or `...`. -/
def startsWithDocumentMark (text : List Placed) : Bool :=
  startsWithMark '-' text || startsWithMark '.' text

/-- The characters of a text, their places forgotten. -/
def chars (text : List Placed) : List Char :=
  text.map Placed.char

/-- The text cut behind the characters of a class. -/
def spanOf (class? : Char → Bool) (text : List Placed) : List Char × List Placed :=
  (chars (text.takeWhile fun p => class? p.char), text.dropWhile fun p => class? p.char)

/-- What is left of a text from the end of the line. -/
def restOfLine (text : List Placed) : List Placed :=
  text.dropWhile fun p => !isBreak p.char

/-- What is left of a text behind blanks and a comment, if nothing else stands before the end of the
line; the line end is taken too. -/
def closeLine? (text : List Placed) : Option (List Placed) :=
  let behind := text.dropWhile fun p => isBlank p.char
  match if goesOn (· == '#') behind then restOfLine behind else behind with
  | [] => some []
  | p :: rest => if isBreak p.char then some rest else none

/-! ## Gaps -/

/-- What stands between two words: the blanks up to the end of the line, and the breaks. -/
structure Gap where
  blanks : List Char
  breaks : List Char
  deriving DecidableEq, Repr

namespace Gap

/-- The gap in front of a text, and the text behind it. -/
def split (text : List Placed) : Gap × List Placed :=
  let gap := chars (text.takeWhile fun p => isGap p.char)
  (⟨gap.takeWhile isBlank, gap.filter isBreak⟩, text.dropWhile fun p => isGap p.char)

/-- Whether the gap reaches over the end of a line. -/
def isBroken (gap : Gap) : Bool :=
  !gap.breaks.isEmpty

/-- What is left of a gap in a scalar: blanks within a line stay, a lone line feed becomes a space,
and of several breaks a line feed in front is dropped. -/
def folded (gap : Gap) : List Char :=
  match gap.breaks with
  | [] => gap.blanks
  | ['\n'] => [' ']
  | '\n' :: more => more
  | breaks => breaks

end Gap

end ContentEngine.Yaml
