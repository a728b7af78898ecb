import ContentEngine.Text.Digit

/-!
# Tables of characters

A table of the code points is written as runs: a code, and the number of consecutive code points
that have it. The runs follow each other from code point zero on.
-/

namespace ContentEngine.Text

/-- Consecutive code points of one code. -/
structure Run where
  first : Nat
  last : Nat
  code : String
  deriving DecidableEq, Repr

namespace Run

/-- The blank-separated entries of a line. -/
def entries (line : String) : List (List Char) :=
  line.toList.foldr
    (fun c words =>
      match c, words with
      | ' ', _ => [] :: words
      | _, [] => [[c]]
      | _, word :: others => (c :: word) :: others)
    [[]]

/-- The runs of some entries whose codes have `width` characters, from the code point `first`. -/
def ofEntries (width first : Nat) : List (List Char) → List Run
  | [] => []
  | entry :: rest =>
    let n := decimal (entry.drop width)
    ⟨first, first + n - 1, String.ofList (entry.take width)⟩ :: ofEntries width (first + n) rest

/-- The runs that are written in some lines. -/
def ofLines (width : Nat) (lines : List String) : List Run :=
  ofEntries width 0 (lines.flatMap entries)

/-- The code of a character. -/
def codeIn? (runs : List Run) (c : Char) : Option String :=
  (runs.find? fun run => c.toNat ≤ run.last).map Run.code

end Run

end ContentEngine.Text
