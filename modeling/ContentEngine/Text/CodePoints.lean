import ContentEngine.Text.Runs

/-!
# Sets of code points

A set of code points is given by its edges, in increasing order: the code points at which
membership changes. Nothing below the first edge is a member, everything from the first edge up to
the second is, and so on. Two sets are combined by merging their edges.
-/

namespace ContentEngine.Text

/-- A set of code points. -/
structure CodePoints where
  edges : List Nat
  deriving DecidableEq, Repr

namespace CodePoints

/-! ## Membership -/

/-- Whether a code point is a member, given the edges that follow and whether the code points below
the first of them are members. -/
def containsFrom (inside : Bool) (n : Nat) : List Nat → Bool
  | [] => inside
  | edge :: rest => if n < edge then inside else containsFrom (!inside) n rest

/-- Whether a character is a member. -/
def contains (s : CodePoints) (c : Char) : Bool :=
  containsFrom false c.toNat s.edges

/-- The consecutive members, as pairs of a first and a last one. -/
def ranges (s : CodePoints) : List (Nat × Nat) :=
  go s.edges
where
  go : List Nat → List (Nat × Nat)
    | [] => []
    | [first] => [(first, 0x10FFFF)]
    | first :: next :: rest => (first, next - 1) :: go rest

/-! ## Sets -/

/-- The set without members. -/
def empty : CodePoints := ⟨[]⟩

/-- The set of all code points. -/
def full : CodePoints := ⟨[0]⟩

/-- The code points from `first` to `last`. -/
def between (first last : Nat) : CodePoints := ⟨[first, last + 1]⟩

/-- The edges of a range in front of others; the range grows if the others begin at its end. -/
def rangeBefore (first next : Nat) : List Nat → List Nat
  | [] => [first, next]
  | edge :: rest => if edge = next then first :: rest else first :: next :: edge :: rest

/-- The code points of a table whose codes satisfy `inside`. -/
def ofRuns (inside : String → Bool) (runs : List Run) : CodePoints :=
  ⟨runs.foldr (fun run later =>
    if inside run.code then rangeBefore run.first (run.last + 1) later else later) []⟩

/-! ## Combinations -/

/-- An edge at `n` in front of others, if membership changes there. -/
def edgeAt (n : Nat) (before after : Bool) (later : List Nat) : List Nat :=
  if before = after then later else n :: later

/-- The edges of a combination, given the edges that follow on both sides and whether the code
points below them are members of the sides. -/
def mergeFrom (op : Bool → Bool → Bool) (p q : Bool) : List Nat → List Nat → List Nat
  | [], [] => []
  | a :: as, [] => edgeAt a (op p q) (op (!p) q) (mergeFrom op (!p) q as [])
  | [], b :: bs => edgeAt b (op p q) (op p (!q)) (mergeFrom op p (!q) [] bs)
  | a :: as, b :: bs =>
    if a < b then edgeAt a (op p q) (op (!p) q) (mergeFrom op (!p) q as (b :: bs))
    else if b < a then edgeAt b (op p q) (op p (!q)) (mergeFrom op p (!q) (a :: as) bs)
    else edgeAt a (op p q) (op (!p) (!q)) (mergeFrom op (!p) (!q) as bs)
termination_by as bs => as.length + bs.length

/-- The code points whose membership in two sets satisfies `op`, which fails for those outside of
both. -/
def combine (op : Bool → Bool → Bool) (s t : CodePoints) : CodePoints :=
  ⟨mergeFrom op false false s.edges t.edges⟩

/-- The members of one of two sets. -/
def union (s t : CodePoints) : CodePoints :=
  combine or s t

/-- The code points outside of a set. -/
def complement (s : CodePoints) : CodePoints :=
  combine xor full s

end CodePoints

end ContentEngine.Text
