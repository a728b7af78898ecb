import ContentEngine.Text.CodePoints

/-!
# Blank characters

The blank characters are those with the Unicode property `White_Space`. Names, expressions and
configuration values are trimmed of them on both sides, and a text made of blanks only counts as
not given.
-/

namespace ContentEngine.Text

/-- The code points with the property `White_Space`. -/
def blanks : CodePoints := ⟨[
  0x9, 0xE, 0x20, 0x21, 0x85, 0x86, 0xA0, 0xA1, 0x1680, 0x1681, 0x2000, 0x200B, 0x2028, 0x202A,
  0x202F, 0x2030, 0x205F, 0x2060, 0x3000, 0x3001]⟩

/-- Whether a character is blank. -/
def isBlank (c : Char) : Bool :=
  blanks.contains c

/-- The text without the blanks at its end. -/
def trimEnd (cs : List Char) : List Char :=
  (cs.reverse.dropWhile isBlank).reverse

/-- The text without the blanks at its two ends. -/
def trim (cs : List Char) : List Char :=
  trimEnd (cs.dropWhile isBlank)

/-- Whether a text consists of blanks only. -/
def isBlankText (s : String) : Bool :=
  s.toList.all isBlank

end ContentEngine.Text
