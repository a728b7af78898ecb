import ContentEngine.Expression.Basic
import ContentEngine.Proofs.Text
import Mathlib.Data.List.Forall2
import Mathlib.Order.MinMax

/-!
# Depth and size of a selection

A selection is refused if it is nested too deep or too large.  Its size is made up of the sizes of its
tokens.  Its depth is computed along the tokens with the groups that are open, and does not get greater if
one of them gets shallower.

## Strategy

`nestingFrom` reads one token after the other (`nestingFrom_cons`).  Every token keeps the order in which
open groups with equally many members are compared (`NotDeeper.enter`), and so do all that follow
(`nestingFrom_mono`, by induction on the tokens).
-/

namespace ContentEngine.Expression

open Text (byteLength byteLength_cons)

variable {gs hs : List OpenGroup} {e e' : Element} {us vs es : List Element}

/-! ## Depth -/

/-- The open groups behind a token. -/
def enter : List OpenGroup → Element → List OpenGroup
  | [], _ => []
  | g :: outer, .groupOpen => ⟨0, 0⟩ :: g :: outer
  | [g], .groupClose => [g]
  | g :: parent :: more, .groupClose => parent.add g.depth :: more
  | g :: outer, e => g.add (elementNesting e) :: outer

theorem nestingFrom_cons (gs : List OpenGroup) (e : Element) (es : List Element) :
    nestingFrom gs (e :: es) = nestingFrom (enter gs e) es := by
  cases gs with
  | nil => cases e <;> simp [enter, nestingFrom]
  | cons g outer =>
      cases e with
      | groupClose => cases outer <;> rfl
      | _ => cases outer <;> rfl

/-- A group has as many members as another one, and none that is deeper. -/
structure OpenGroup.NotDeeper (g h : OpenGroup) : Prop where
  members : g.members = h.members
  deepest : g.deepest ≤ h.deepest

theorem OpenGroup.NotDeeper.add {g h : OpenGroup} (hle : NotDeeper g h) {n m : Nat} (hnm : n ≤ m) :
    NotDeeper (g.add n) (h.add m) where
  members := congrArg (· + 1) hle.members
  deepest := max_le_max hle.deepest hnm

theorem OpenGroup.NotDeeper.depth {g h : OpenGroup} (hle : NotDeeper g h) : g.depth ≤ h.depth := by
  unfold OpenGroup.depth
  rw [hle.members]
  exact Nat.add_le_add_left hle.deepest _

/-- Open groups are compared one by one, the innermost first. -/
def NotDeeper : List OpenGroup → List OpenGroup → Prop :=
  List.Forall₂ OpenGroup.NotDeeper

theorem NotDeeper.refl (gs : List OpenGroup) : NotDeeper gs gs :=
  List.forall₂_same.mpr fun _ _ => ⟨rfl, Nat.le_refl _⟩

theorem NotDeeper.enter (h : NotDeeper gs hs) (e : Element) :
    NotDeeper (enter gs e) (Expression.enter hs e) := by
  cases h with
  | nil => exact .nil
  | cons hg houter =>
      cases e with
      | groupOpen => exact .cons ⟨rfl, Nat.le_refl _⟩ (.cons hg houter)
      | groupClose =>
          cases houter with
          | nil => exact .cons hg .nil
          | cons hparent hmore => exact .cons (hparent.add hg.depth) hmore
      | _ => exact .cons (hg.add (Nat.le_refl _)) houter

theorem nestingFrom_mono (h : NotDeeper gs hs) (es : List Element) :
    nestingFrom gs es ≤ nestingFrom hs es := by
  induction es generalizing gs hs with
  | nil =>
      cases h with
      | nil => exact Nat.le_refl _
      | cons hg houter =>
          cases houter with
          | nil => exact Nat.add_le_add_left hg.deepest 1
          | cons => exact hg.depth
  | cons e es ih =>
      rw [nestingFrom_cons, nestingFrom_cons]
      exact ih (h.enter e)

/-- A selection does not get deeper if a token gives way to one that adds no more levels. -/
theorem nestingFrom_append_cons (gs : List OpenGroup) (us vs : List Element)
    (h : ∀ gs, NotDeeper (enter gs e) (enter gs e')) :
    nestingFrom gs (us ++ e :: vs) ≤ nestingFrom gs (us ++ e' :: vs) := by
  induction us generalizing gs with
  | nil =>
      rw [List.nil_append, List.nil_append, nestingFrom_cons, nestingFrom_cons]
      exact nestingFrom_mono (h gs) vs
  | cons u us ih =>
      rw [List.cons_append, List.cons_append, nestingFrom_cons, nestingFrom_cons]
      exact ih (enter gs u)

/-- A run that crosses segments is not deeper than one that does not. -/
theorem nesting_pathRun_le (us vs : List Element) :
    nesting (us ++ .pathRun :: vs) ≤ nesting (us ++ .segmentRun :: vs) := by
  refine nestingFrom_append_cons _ us vs fun gs => ?_
  have hle : elementNesting .pathRun ≤ elementNesting .segmentRun := by decide
  cases gs with
  | nil => exact .nil
  | cons g outer =>
      have hg : OpenGroup.NotDeeper g g := ⟨rfl, Nat.le_refl _⟩
      exact .cons (hg.add hle) (NotDeeper.refl outer)

/-- Literals are not nested. -/
theorem nesting_literals (cs : List Char) : nesting (cs.map .literal) = 1 := by
  suffices h : ∀ n, nestingFrom [⟨n, 0⟩] (cs.map .literal) = 1 from h 0
  induction cs with
  | nil => exact fun _ => rfl
  | cons c cs ih =>
      intro n
      rw [List.map_cons, nestingFrom_cons]
      exact ih (n + 1)

/-! ## Size -/

theorem size_cons (e : Element) (es : List Element) : size (e :: es) = e.size + size es := by
  suffices h : ∀ n, es.foldl (fun total e => total + e.size) (n + e.size) =
      e.size + es.foldl (fun total e => total + e.size) n from h _
  induction es with
  | nil => exact fun n => Nat.add_comm n e.size
  | cons d es ih =>
      intro n
      rw [List.foldl_cons, List.foldl_cons, ← ih, Nat.add_right_comm]

/-- A run takes as much whether it crosses segments or not. -/
theorem size_pathRun (us vs : List Element) :
    size (us ++ .pathRun :: vs) = size (us ++ .segmentRun :: vs) := by
  have hruns : Element.size .pathRun = Element.size .segmentRun := rfl
  induction us with
  | nil => rw [List.nil_append, List.nil_append, size_cons, size_cons, hruns]
  | cons u us ih => rw [List.cons_append, List.cons_append, size_cons, size_cons, ih]

/-- Literals take as much as their characters do in bytes. -/
theorem size_literals (cs : List Char) :
    size (cs.map .literal) = 4 * stateSize + stateSize * byteLength cs := by
  induction cs with
  | nil => rfl
  | cons c cs ih =>
      have hliteral : Element.size (.literal c) = stateSize * c.utf8Size := rfl
      rw [List.map_cons, size_cons, ih, hliteral, byteLength_cons, Nat.mul_add]
      omega

end ContentEngine.Expression
