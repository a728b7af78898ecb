import ContentEngine.Text.Cut

/-!
# Tokens of a selection

A selection is a text of literal characters, wildcards, explicit groups and character classes.
`scan` cuts it into tokens. It goes through the text once, from left to right, and stops at the
first character after which no selection is possible any more; faults at the end of the text are
reported in the order dangling escape, open class, open group.
-/

namespace ContentEngine.Expression

/-- A token of a selection; `β` is what stands for a character class. -/
inductive Token (β : Type) where
  | literal (c : Char)
  /-- `*`: any run of characters without a slash. -/
  | segmentRun
  /-- `**`: any run of characters without a line feed. -/
  | pathRun
  /-- `?`: one character other than a slash. -/
  | single
  | groupOpen
  | groupClose
  /-- One character of a class. -/
  | oneOf (characters : β)
  deriving DecidableEq, Repr

namespace Token

variable {β : Type}

/-- Whether the token opens a numbered group. -/
def isCapturing : Token β → Bool
  | segmentRun | pathRun | single | groupOpen => true
  | literal _ | groupClose | oneOf _ => false

/-- The token with its class read by `read`. -/
def resolve {γ ε : Type} (read : β → Except ε γ) : Token β → Except ε (Token γ)
  | literal c => .ok (literal c)
  | segmentRun => .ok segmentRun
  | pathRun => .ok pathRun
  | single => .ok single
  | groupOpen => .ok groupOpen
  | groupClose => .ok groupClose
  | oneOf characters => (read characters).map oneOf

end Token

/-- Why a text is no selection. Positions count the bytes before an opening bracket. -/
inductive SelectionFault where
  | unclosedBracket (position : Nat)
  | nestedBracket (position : Nat)
  | unbalancedParentheses
  | danglingEscape
  deriving DecidableEq, Repr

/-- A class whose closing bracket is still missing: where it started, and its text in reverse. -/
structure OpenBracket where
  position : Nat
  read : List Char

/-- The tokens of the rest of a selection that starts at byte `position`, inside `depth` open groups
and possibly inside a class. -/
def scan (position depth : Nat) (bracket : Option OpenBracket) :
    List Char → Except SelectionFault (List (Token (List Char)))
  | [] =>
    match bracket with
    | some b => .error (.unclosedBracket b.position)
    | none => if depth = 0 then .ok [] else .error .unbalancedParentheses
  | '\\' :: [] => .error .danglingEscape
  | '\\' :: c :: rest =>
    let next := position + 1 + c.utf8Size
    match bracket with
    | some b => scan next depth (some { b with read := c :: '\\' :: b.read }) rest
    | none => (scan next depth none rest).map (.literal c :: ·)
  | '*' :: '*' :: rest =>
    match bracket with
    | some b => scan (position + 2) depth (some { b with read := '*' :: '*' :: b.read }) rest
    | none => (scan (position + 2) depth none rest).map (.pathRun :: ·)
  | c :: rest =>
    let next := position + c.utf8Size
    match bracket with
    | some b =>
      if c = ']' then (scan next depth none rest).map (.oneOf b.read.reverse :: ·)
      else if c = '[' then .error (.nestedBracket position)
      else scan next depth (some { b with read := c :: b.read }) rest
    | none =>
      if c = '*' then (scan next depth none rest).map (.segmentRun :: ·)
      else if c = '?' then (scan next depth none rest).map (.single :: ·)
      else if c = '(' then (scan next (depth + 1) none rest).map (.groupOpen :: ·)
      else if c = ')' then
        if depth = 0 then .error .unbalancedParentheses
        else (scan next (depth - 1) none rest).map (.groupClose :: ·)
      else if c = '[' then scan next depth (some ⟨position, []⟩) rest
      else (scan next depth none rest).map (.literal c :: ·)

/-- The tokens of a selection. -/
def tokens (selection : List Char) : Except SelectionFault (List (Token (List Char))) :=
  scan 0 0 none selection

end ContentEngine.Expression
