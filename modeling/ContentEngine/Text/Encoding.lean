import ContentEngine.Text.CodePoints

/-!
# Encoded sets of characters

In UTF-8 a character is a lead byte and up to three trailing bytes of six bits each. The encodings
of a range of characters fall into a few groups in each of which every byte runs through a range of
its own, whatever the others are; the groups of a range follow each other in code point order.
-/

namespace ContentEngine.Text

/-- The bytes from `first` to `last`. -/
structure ByteRange where
  first : Nat
  last : Nat
  deriving DecidableEq, Repr

/-- A group of encodings: the ranges of their bytes, lead byte first. -/
abbrev EncodingGroup := List ByteRange

namespace EncodingGroup

/-- How many values some trailing bytes can have together. -/
def trailingValues : Nat → Nat
  | 0 => 1
  | trailing + 1 => 64 * trailingValues trailing

/-- A trailing byte of any value. -/
def anyTrailing : ByteRange := ⟨0x80, 0xBF⟩

/-- The groups of the numbers from `first` to `last` that are written as a byte, counted from
`lead`, and some trailing bytes. -/
def between : (trailing lead first last : Nat) → List EncodingGroup
  | 0, lead, first, last => [[⟨lead + first, lead + last⟩]]
  | trailing + 1, lead, first, last =>
    let values := trailingValues (trailing + 1)
    let firstByte := first / values
    let lastByte := last / values
    let within (byte a b : Nat) : List EncodingGroup :=
      (between trailing 0x80 a b).map (⟨lead + byte, lead + byte⟩ :: ·)
    if firstByte = lastByte then within firstByte (first % values) (last % values)
    else
      let startsFull := first % values = 0
      let endsFull := last % values = values - 1
      let firstFull := if startsFull then firstByte else firstByte + 1
      let afterFull := if endsFull then lastByte + 1 else lastByte
      (if startsFull then [] else within firstByte (first % values) (values - 1)) ++
      (if firstFull < afterFull then
        [⟨lead + firstFull, lead + afterFull - 1⟩ :: List.replicate (trailing + 1) anyTrailing]
      else []) ++
      (if endsFull then [] else within lastByte 0 (last % values))

/-- The characters whose encodings have one form. -/
structure Form where
  first : Nat
  last : Nat
  lead : Nat
  trailing : Nat

/-- The forms of encodings; the code points between the third and the fourth are no characters. -/
def forms : List Form := [
  ⟨0, 0x7F, 0, 0⟩,
  ⟨0x80, 0x7FF, 0xC0, 1⟩,
  ⟨0x800, 0xD7FF, 0xE0, 2⟩,
  ⟨0xE000, 0xFFFF, 0xE0, 2⟩,
  ⟨0x10000, 0x10FFFF, 0xF0, 3⟩]

/-- The groups of the characters from `first` to `last`. -/
def ofRange (first last : Nat) : List EncodingGroup :=
  forms.flatMap fun form =>
    let a := max first form.first
    let b := min last form.last
    if a ≤ b then between form.trailing form.lead a b else []

/-- The groups of a set of characters. -/
def ofSet (s : CodePoints) : List EncodingGroup :=
  s.ranges.flatMap fun range => ofRange range.1 range.2

/-- How many byte ranges two groups have in common from the lead byte on. -/
def shared : EncodingGroup → EncodingGroup → Nat
  | a :: as, b :: bs => if a = b then shared as bs + 1 else 0
  | _, _ => 0

/-- The number of byte ranges in the tree of some groups, where neighbours share what they have in
common from the lead byte on. -/
def treeSize (previous : EncodingGroup) : List EncodingGroup → Nat
  | [] => 0
  | group :: rest => group.length - shared previous group + treeSize group rest

end EncodingGroup

end ContentEngine.Text
