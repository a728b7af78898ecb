import ContentEngine.Yaml.Scalar

/-!
# Block scalars

A block scalar is a header and the lines below it that are indented deep enough. The header says
what happens to the line ends behind the last line, and may give the indentation; otherwise the
first line gives it. The lines of a literal scalar stay; those of a folded one are joined unless
they begin with a blank.
-/

namespace ContentEngine.Yaml.Block

/-- What happens to the line ends behind the last line of a block scalar. -/
inductive Chomping where
  | strip
  | clip
  | keep
  deriving DecidableEq, Repr

/-- The header of a block scalar; the indentation counts from that of the block around it. -/
structure Header where
  chomping : Chomping
  indentation : Option Nat
  deriving DecidableEq, Repr

/-- The chomping indicator at the start of a text. -/
def chomping? : List Placed → Option (Chomping × List Placed)
  | [] => none
  | p :: rest =>
    if p.char = '+' then some (.keep, rest)
    else if p.char = '-' then some (.strip, rest)
    else none

/-- The indentation indicator at the start of a text, which must not be zero. -/
def indentation? : List Placed → Option (Option Nat × List Placed)
  | [] => some (none, [])
  | p :: rest =>
    match Text.digit? 10 p.char with
    | none => some (none, p :: rest)
    | some 0 => none
    | some n => some (some n, rest)

/-- The header at the start of a text, its two parts in any order, and the lines below it. -/
def header? (text : List Placed) : Option (Header × List Placed) := do
  match chomping? text with
  | some (chomping, behind) =>
    let (indentation, behind) ← indentation? behind
    some (⟨chomping, indentation⟩, ← closeLine? behind)
  | none =>
    let (indentation, behind) ← indentation? text
    let (chomping, behind) := if indentation.isSome then (chomping? behind).getD (.clip, behind)
      else (.clip, behind)
    some (⟨chomping, indentation⟩, ← closeLine? behind)

/-- What stands in front of a line of a block scalar: the breaks of empty lines, the greatest column
reached, and the text behind. -/
structure Indented where
  breaks : List Char
  column : Nat
  behind : List Placed

/-- The indentation in front of a line, up to the column `limit` if there is one, with the empty
lines before it. A tab must not stand in it. -/
def indented? (limit : Option Nat) (column : Nat) : List Placed → Option Indented
  | [] => some ⟨[], column, []⟩
  | p :: rest =>
    let column := max column p.column
    let inside := limit.all (p.column < ·)
    if inside && p.char == ' ' then indented? limit (max column (p.column + 1)) rest
    else if inside && p.char == '\t' then none
    else if isBreak p.char then
      (indented? limit column rest).map fun r => { r with breaks := p.char :: r.breaks }
    else some ⟨[], column, p :: rest⟩

/-- What has been read of a block scalar: its text, the break behind its last line, the breaks of
the empty lines behind that, and whether the last line began with a blank. -/
structure Lines where
  text : List Char
  lastBreak : List Char
  breaks : List Char
  afterBlank : Bool

/-- The lines with one more line behind them. A folded scalar drops the break between two lines that
do not begin with a blank, and puts a space there unless there are empty lines between them. -/
def Lines.add (style : ScalarStyle) (lines : Lines) (line : List Char) : Lines :=
  let startsBlank := match line with
    | [] => false
    | c :: _ => isBlank c
  let joint :=
    if style == .folded && lines.lastBreak == ['\n'] && !lines.afterBlank && !startsBlank then
      if lines.breaks.isEmpty then [' '] else []
    else lines.lastBreak
  ⟨lines.text ++ joint ++ lines.breaks ++ line, [], [], startsBlank⟩

/-- The lines of a block scalar behind those read, for the given indentation. -/
def linesFrom? (style : ScalarStyle) (indent : Nat) :
    Nat → Lines → List Placed → Option (Lines × List Placed)
  | 0, _, _ => none
  | _ + 1, lines, [] => some (lines, [])
  | fuel + 1, lines, p :: rest =>
    if p.column = indent then do
      let (line, behind) := spanOf (fun c => !isBreak c) (p :: rest)
      let front ← indented? (some indent) 0 (behind.drop 1)
      linesFrom? style indent fuel
        { lines.add style line with lastBreak := chars (behind.take 1), breaks := front.breaks }
        front.behind
    else some (lines, p :: rest)

/-- The text of a block scalar that has been read. -/
def Lines.chomped (chomping : Chomping) (lines : Lines) : List Char :=
  match chomping with
  | .strip => lines.text
  | .clip => lines.text ++ lines.lastBreak
  | .keep => lines.text ++ lines.lastBreak ++ lines.breaks

/-- The block scalar behind its indicator, and the text behind it. `parent` is the column of the
block around it, and the lines are indented deeper than that. -/
def scalar? (style : ScalarStyle) (parent : Option Nat) (text : List Placed) :
    Option (List Char × List Placed) := do
  let (header, below) ← header? text
  let given := header.indentation.map (parent.getD 0 + ·)
  let front ← indented? given 0 below
  let least := match parent with
    | none => 1
    | some column => column + 1
  let indent := given.getD (max front.column least)
  let (lines, behind) ←
    linesFrom? style indent (text.length + 1) ⟨[], [], front.breaks, false⟩ front.behind
  some (lines.chomped header.chomping, behind)

end ContentEngine.Yaml.Block
