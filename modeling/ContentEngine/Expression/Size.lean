import ContentEngine.Expression.Cut
import ContentEngine.Text.Encoding

/-!
# The size of a selection

The limit holds for each automaton that is built of a selection. The one that is measured here reads a
text in UTF-8 byte by byte, from its end to its beginning, and does not tell where groups begin and
end. A state takes 32 bytes. One byte, or one range of bytes, is a state; a class is a choice between
its characters, whose encodings share states from the lead byte on. Parentheses take nothing: what
groups take in the automaton that reads forward is not counted.
-/

namespace ContentEngine.Expression

open Text (CodePoints EncodingGroup)

/-- The largest size of an automaton: ten mebibytes. -/
def sizeLimit : Nat := 10485760

/-- The size of a state. -/
def stateSize : Nat := 32

/-- The size of one character. -/
def charSize (c : Char) : Nat :=
  stateSize * c.utf8Size

/-- The size of a choice between some encodings, with a state before it and one behind it. -/
def choiceSize (groups : List EncodingGroup) : Nat :=
  if groups.all fun group => group.length == 1 then 2 * stateSize + 8 * groups.length
  else 2 * stateSize + 4 * groups.length + stateSize * EncodingGroup.treeSize [] groups

/-- The size of a choice between the characters of a set. -/
def setSize (s : CodePoints) : Nat :=
  match s.ranges with
  | [] => stateSize
  | [(first, last)] =>
    if first = last then charSize (Char.ofNat first) else choiceSize (EncodingGroup.ofSet s)
  | _ => choiceSize (EncodingGroup.ofSet s)

/-- The characters other than one in ASCII. -/
def allBut (c : Char) : CodePoints :=
  ⟨[0, c.toNat, c.toNat + 1]⟩

/-- The size of a run of any length, with the state at which it is decided whether it goes on. -/
def runSize (s : CodePoints) : Nat :=
  setSize s + stateSize + 8

namespace Element

/-- The size of a token. -/
def size : Element → Nat
  | .literal c => charSize c
  | .segmentRun => runSize (allBut '/')
  | .pathRun => runSize (allBut '\n')
  | .single => setSize (allBut '/')
  | .groupOpen => 0
  | .groupClose => 0
  | .oneOf k => setSize k.characters

end Element

/-- The size of the automaton that reads a selection backward and keeps no groups, with the states at its
two ends. -/
def size (elements : List Element) : Nat :=
  elements.foldl (fun total e => total + e.size) (4 * stateSize)

end ContentEngine.Expression
