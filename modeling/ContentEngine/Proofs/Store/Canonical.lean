import ContentEngine.Proofs.Store.Paths
import Mathlib.Order.Defs.Unbundled

/-!
# Canonical texts of paths

Every path has one text that is its own, its canonical text, and reading it gives the path back.  Reading
any other text gives the path whose canonical text is what is left of that text without its superfluous
slashes.  So paths and canonical texts correspond to each other one by one, whichever way a path was
reached: from the root, by reading, going down, going up, or as a value that was decoded.
-/

namespace ContentEngine

namespace NodePath

/-! ## Reading -/

/-- A slash, followed by the pieces of a text between slashes that are not empty, with slashes between
them. -/
def canonicalText (text : String) : String :=
  "/" ++ "/".intercalate (((text.toList.splitOn '/').filter (· ≠ [])).map String.ofList)

theorem text_of_parse {text : String} {p : NodePath} (h : parse text = .ok p) :
    p.text = canonicalText text := by
  have habsolute : text.toList.head? = some '/' := parse_ok_iff.mp ⟨p, h⟩
  have hp : p = ofPieces text.toList := by
    rw [parse, if_pos habsolute] at h
    exact (Except.ok.inj h).symm
  have hsegments : p.segments = ((text.toList.splitOn '/').filter (· ≠ [])).map String.ofList := by
    rw [hp, ← pieces_eq_splitOn]
    refine congrArg (List.map String.ofList) (List.filter_congr fun piece _ => ?_)
    cases piece <;> rfl
  calc p.text
    _ = "/" ++ Text.joined "/" p.segments := p.text_eq_joined
    _ = canonicalText text := by rw [hsegments]; rfl

theorem text_injective : Function.Injective text := by
  intro p q heq
  have hparse : parse p.text = parse q.text := congrArg parse heq
  rw [parse_text, parse_text] at hparse
  exact Except.ok.inj hparse

/-! ## Down and up -/

theorem child_eq_ok_iff {p q : NodePath} {name : String} :
    p.child name = .ok q ↔ ∃ h : IsSegment name, q = p.extend name h := by
  unfold child
  split
  · rename_i h
    constructor
    · intro hok
      exact ⟨h, (Except.ok.inj hok).symm⟩
    · rintro ⟨_, rfl⟩
      rfl
  · rename_i h
    constructor
    · intro hok
      cases hok
    · rintro ⟨hname, _⟩
      exact absurd hname h

theorem parent?_extend (p : NodePath) (name : String) (h : IsSegment name) :
    (p.extend name h).parent? = some p := by
  refine parent?_eq_some_iff.mpr ⟨isAtOrBelow_iff.mpr (List.prefix_append _ _), ?_⟩
  simp [depth, extend]

/-! ## Paths that are reached -/

/-- The paths that are reached from the root, by reading and decoding, and from there down and up. -/
inductive Obtainable : NodePath → Prop
  | root : Obtainable root
  | parsed {text : String} {p : NodePath} : parse text = .ok p → Obtainable p
  | decoded {v : Value} {p : NodePath} : Value.Decode.path? v = some p → Obtainable p
  | child {p q : NodePath} {name : String} : Obtainable p → p.child name = .ok q → Obtainable q
  | parent {p q : NodePath} : Obtainable p → p.parent? = some q → Obtainable q

/-- What holds of a path, its canonical text and its children. -/
structure Canonical (p : NodePath) : Prop where
  segments : ∀ s ∈ p.segments, s ≠ "" ∧ '/' ∉ s.toList
  readBack : parse p.text = .ok p
  decoded : Value.Decode.path? (.text p.text) = some p
  own : ∀ q : NodePath, q.text = p.text → q = p
  child_iff : ∀ name, (∃ q, p.child name = .ok q) ↔ name ≠ "" ∧ '/' ∉ name.toList
  parent_child : ∀ name q, p.child name = .ok q → q.parent? = some p

theorem canonical (p : NodePath) : Canonical p where
  segments := p.valid
  readBack := parse_text p
  decoded := by rw [Value.Decode.path?, parse_text]; rfl
  own := fun q heq => text_injective heq
  child_iff := by
    intro name
    constructor
    · rintro ⟨q, hq⟩
      obtain ⟨hname, -⟩ := child_eq_ok_iff.mp hq
      exact hname
    · intro hname
      exact ⟨p.extend name hname, child_eq_ok_iff.mpr ⟨hname, rfl⟩⟩
  parent_child := by
    intro name q hq
    obtain ⟨hname, rfl⟩ := child_eq_ok_iff.mp hq
    exact parent?_extend p name hname

/-! ## Above and below -/

instance : IsPartialOrder NodePath fun p q => p.isAtOrBelow q = true where
  refl := isAtOrBelow_self
  trans _ _ _ := isAtOrBelow_trans
  antisymm _ _ := isAtOrBelow_antisymm

theorem isBelow_iff_not_above {p q : NodePath} :
    p.isBelow q = true ↔ p.isAtOrBelow q = true ∧ ¬q.isAtOrBelow p = true := by
  rw [isBelow_iff]
  refine and_congr_right fun hpq => not_congr ⟨?_, ?_⟩
  · rintro rfl
    exact isAtOrBelow_self p
  · intro hqp
    exact isAtOrBelow_antisymm hpq hqp

end NodePath

open NodePath

/-- **Paths and canonical texts correspond one by one.**  A text is read as a path if and only if it
begins with a slash, and then the path has the canonical text of that text.  Every path can be reached,
and whichever way it was reached, its segments are segments, its canonical text is read as the path again
and is that of no other path, and its children are the paths of which it is the parent, one for each
segment.  Being at or below is a partial order, below the root at the top, and being below is its strict
part. -/
theorem paths_canonical :
    (∀ text, (∃ p, parse text = .ok p) ↔ text.toList.head? = some '/') ∧
    (∀ text p, parse text = .ok p → p.text = canonicalText text) ∧
    (∀ p, Obtainable p ∧ Canonical p) ∧
    IsPartialOrder NodePath (fun p q => p.isAtOrBelow q = true) ∧
    (∀ p : NodePath, p.isAtOrBelow root = true) ∧
    ∀ p q : NodePath, p.isBelow q = true ↔ p.isAtOrBelow q = true ∧ ¬q.isAtOrBelow p = true := by
  refine ⟨fun text => parse_ok_iff, fun text p => text_of_parse, fun p => ⟨?_, canonical p⟩,
    inferInstance, isAtOrBelow_root, fun p q => isBelow_iff_not_above⟩
  exact .parsed (parse_text p)

end ContentEngine
