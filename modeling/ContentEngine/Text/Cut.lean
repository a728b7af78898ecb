/-!
# Cutting texts

Texts are cut at a separator character, or once at the first occurrence of a mark. Positions that
are shown to a reader count UTF-8 bytes.
-/

namespace ContentEngine.Text

/-- The pieces of a text between the occurrences of `separator`, empty ones included. -/
def pieces (separator : Char) : List Char → List (List Char)
  | [] => [[]]
  | c :: rest =>
    if c = separator then [] :: pieces separator rest
    else
      match pieces separator rest with
      | [] => [[c]]
      | piece :: others => (c :: piece) :: others

/-- The parts before and after the first occurrence of `mark`. -/
def cutOnce (mark : List Char) (cs : List Char) : Option (List Char × List Char) :=
  if mark.isPrefixOf cs then some ([], cs.drop mark.length)
  else
    match cs with
    | [] => none
    | c :: rest => (cutOnce mark rest).map fun (before, after) => (c :: before, after)

/-- The parts before and after the last occurrence of `separator`. -/
def cutLast (separator : Char) (cs : List Char) : Option (List Char × List Char) :=
  match cs.reverse.span (· ≠ separator) with
  | (_, []) => none
  | (after, _ :: before) => some (before.reverse, after.reverse)

/-- The number of bytes that a text takes in UTF-8. -/
def byteLength (cs : List Char) : Nat :=
  cs.foldl (fun n c => n + c.utf8Size) 0

/-- The strings joined with `separator` between neighbours. -/
def joined (separator : String) (parts : List String) : String :=
  String.intercalate separator parts

end ContentEngine.Text
