import ContentEngine.Text.Cut

/-!
# Node paths

A node path is the absolute location of a node inside one workspace of a source: the list of its
segments. A segment is a text that is not empty and holds no slash, so every path has exactly one
canonical text: `/` for the root, and each segment after a slash otherwise. Reading collapses empty
segments, so `//a///b/` and `/a/b` are the same path.

Paths are ordered segment by segment, and segments by their characters.
-/

namespace ContentEngine

/-- A text that can name a node: not empty and without a slash. -/
def IsSegment (s : String) : Prop :=
  s ≠ "" ∧ '/' ∉ s.toList

instance (s : String) : Decidable (IsSegment s) :=
  inferInstanceAs (Decidable (_ ∧ _))

/-- The location of a node: its segments from the root on. -/
structure NodePath where
  segments : List String
  valid : ∀ s ∈ segments, IsSegment s
  deriving DecidableEq

/-- Why a text is no path, or no segment of one. -/
inductive PathError where
  | notAbsolute (text : String)
  | invalidSegment (text : String)
  deriving DecidableEq, Repr

namespace PathError

/-- The text of a path error. -/
def message : PathError → String
  | notAbsolute text => "path '" ++ text ++ "' is not absolute"
  | invalidSegment text => "'" ++ text ++ "' is not a valid path segment"

end PathError

namespace Text

theorem not_mem_of_mem_pieces {separator : Char} {cs piece : List Char}
    (hpiece : piece ∈ pieces separator cs) : separator ∉ piece := by
  induction cs generalizing piece with
  | nil =>
    simp only [pieces, List.mem_singleton] at hpiece
    simp [hpiece]
  | cons c rest ih =>
    unfold pieces at hpiece
    split at hpiece
    · rcases List.mem_cons.mp hpiece with rfl | hmem
      · simp
      · exact ih hmem
    · rename_i hne
      split at hpiece
      · simp only [List.mem_singleton] at hpiece
        subst hpiece
        simp [Ne.symm hne]
      · rename_i first others heq
        rcases List.mem_cons.mp hpiece with rfl | hmem
        · have hfirst : separator ∉ first := ih (by simp [heq])
          simp [Ne.symm hne, hfirst]
        · exact ih (by simp [heq, hmem])

end Text

namespace NodePath

instance : Inhabited NodePath := ⟨⟨[], by simp⟩⟩

instance : LT NodePath := ⟨fun p q => p.segments < q.segments⟩

instance : DecidableLT NodePath := fun p q =>
  inferInstanceAs (Decidable (p.segments < q.segments))

/-- The path without segments. -/
def root : NodePath := ⟨[], by simp⟩

/-- The path of the pieces of a text between slashes; empty pieces are dropped. -/
def ofPieces (cs : List Char) : NodePath where
  segments := ((Text.pieces '/' cs).filter fun piece => !piece.isEmpty).map String.ofList
  valid := by
    intro s hs
    obtain ⟨piece, hpiece, rfl⟩ := List.mem_map.mp hs
    obtain ⟨hmem, hne⟩ := List.mem_filter.mp hpiece
    refine ⟨?_, ?_⟩
    · intro hempty
      have : piece = [] := by simpa using congrArg String.toList hempty
      simp [this] at hne
    · simpa using Text.not_mem_of_mem_pieces hmem

/-- Reads a path; its text has to start with a slash. -/
def parse (text : String) : Except PathError NodePath :=
  if text.toList.head? = some '/' then .ok (ofPieces text.toList) else .error (.notAbsolute text)

/-- The canonical text of a list of segments. -/
def renderSegments (segments : List String) : String :=
  match segments with
  | [] => "/"
  | _ => String.ofList (segments.flatMap fun s => '/' :: s.toList)

/-- The canonical text of a path. -/
def text (p : NodePath) : String :=
  renderSegments p.segments

instance : ToString NodePath := ⟨text⟩

/-- The number of segments. -/
def depth (p : NodePath) : Nat :=
  p.segments.length

/-- Whether the path is the root. -/
def isRoot (p : NodePath) : Bool :=
  p.segments.isEmpty

/-- The path one level up; the root has none. -/
def parent? (p : NodePath) : Option NodePath :=
  if p.segments = [] then none
  else some ⟨p.segments.dropLast, fun s hs => p.valid s (List.dropLast_subset _ hs)⟩

/-- The last segment; the root has none. -/
def last? (p : NodePath) : Option String :=
  p.segments.getLast?

/-- The path one level down under a name that is a segment. -/
def extend (p : NodePath) (name : String) (h : IsSegment name) : NodePath where
  segments := p.segments ++ [name]
  valid := by
    intro s hs
    rcases List.mem_append.mp hs with hs | hs
    · exact p.valid s hs
    · simp only [List.mem_singleton] at hs
      exact hs ▸ h

/-- The path one level down under a name, if the name is a segment. -/
def child (p : NodePath) (name : String) : Except PathError NodePath :=
  if h : IsSegment name then .ok (p.extend name h) else .error (.invalidSegment name)

/-- Whether the path is `other` or lies below it. -/
def isAtOrBelow (p other : NodePath) : Bool :=
  other.segments.isPrefixOf p.segments

/-- Whether the path lies below `other` and is not `other`. -/
def isBelow (p other : NodePath) : Bool :=
  decide (other.depth < p.depth) && p.isAtOrBelow other

/-- The path of the first `n` segments. -/
def take (p : NodePath) (n : Nat) : NodePath :=
  ⟨p.segments.take n, fun s hs => p.valid s (List.take_subset _ _ hs)⟩

/-- The paths above a path, nearest first, the root last. -/
def ancestors (p : NodePath) : List NodePath :=
  (List.range p.depth).reverse.map p.take

/-- The path with the segments of `suffix` after its own. -/
def append (p : NodePath) (suffix : List String) (h : ∀ s ∈ suffix, IsSegment s) : NodePath where
  segments := p.segments ++ suffix
  valid := by
    intro s hs
    rcases List.mem_append.mp hs with hs | hs
    · exact p.valid s hs
    · exact h s hs

/-- Where a path at or below `source` lies after the subtree at `source` moved to `target`. -/
def rebase (p source target : NodePath) : NodePath :=
  target.append (p.segments.drop source.depth) fun s hs => p.valid s (List.drop_subset _ _ hs)

end NodePath

/-- A path together with the name of the source that holds it. -/
structure Location where
  source : String
  path : NodePath
  deriving DecidableEq

namespace Location

/-- The text of a location: the source and the path with a colon between them. -/
def text (l : Location) : String :=
  l.source ++ ":" ++ l.path.text

end Location

end ContentEngine
