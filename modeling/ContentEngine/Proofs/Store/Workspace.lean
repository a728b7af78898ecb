import ContentEngine.Proofs.Store.Scans

/-!
# Subtrees of workspaces

The nodes at or below a path follow one another in a workspace that is in order, so they are the
nodes whose paths are at or below it.  What is read below a path depends on these nodes only, and a
change at a path that is apart from it leaves them as they are.
-/

namespace ContentEngine.Workspace

/-! ## Subtrees -/

variable {nodes nodes' : Workspace} {path q : NodePath}

/-- The subtree at a path holds the nodes whose paths are at or below it. -/
theorem subtree_eq_filter (h : Table.Sorted nodes) (path : NodePath) :
    nodes.subtree path = nodes.filter fun entry => entry.1.isAtOrBelow path :=
  Table.scanned_eq_filter h

theorem subtree_sorted (h : Table.Sorted nodes) (path : NodePath) :
    Table.Sorted (nodes.subtree path) := by
  rw [subtree_eq_filter h]
  exact h.sublist List.filter_sublist

theorem isAtOrBelow_of_mem_subtree {entry : NodePath × Properties}
    (h : entry ∈ nodes.subtree path) : entry.1.isAtOrBelow path = true :=
  List.all_eq_true.mp List.all_takeWhile entry h

/-- The subtree at a path below another one is part of that one's subtree. -/
theorem subtree_below (h : Table.Sorted nodes) (hpath : path.isAtOrBelow q = true) :
    nodes.subtree path = (nodes.subtree q).filter fun entry => entry.1.isAtOrBelow path := by
  rw [subtree_eq_filter h, subtree_eq_filter h, List.filter_filter]
  refine List.filter_congr fun entry _ => ?_
  cases hentry : entry.1.isAtOrBelow path with
  | false => rfl
  | true => rw [NodePath.isAtOrBelow_trans hentry hpath, Bool.and_self]

/-! ## Reading -/

/-- What is read below a path depends on the subtree at the path only. -/
theorem subgraph?_congr (h : Table.Sorted nodes) (h' : Table.Sorted nodes')
    (hsame : nodes'.subtree q = nodes.subtree q) (depth : Nat) :
    nodes'.subgraph? q depth = nodes.subgraph? q depth := by
  have hcontains : Table.contains nodes' q = Table.contains nodes q := by
    have hfilter : nodes'.filter (fun entry => entry.1.isAtOrBelow q) =
        nodes.filter fun entry => entry.1.isAtOrBelow q := by
      rw [← subtree_eq_filter h, ← subtree_eq_filter h', hsame]
    unfold Table.contains
    have hself := NodePath.isAtOrBelow_self q
    rw [← Table.get?_filter nodes' (p := fun path => path.isAtOrBelow q) hself, hfilter,
      Table.get?_filter nodes (p := fun path => path.isAtOrBelow q) hself]
  unfold subgraph?
  rw [hcontains, hsame]
  split
  · refine congrArg some (List.foldl_rel (r := (· = ·)) rfl fun entry hentry graph _ hgraph => ?_)
    have hbelow := isAtOrBelow_of_mem_subtree (List.mem_filter.mp hentry).1
    unfold childPaths
    rw [hgraph, subtree_below h hbelow, subtree_below h' hbelow, hsame]
  · rfl

/-! ## Changes -/

theorem withAncestors_sorted (h : Table.Sorted nodes) (path : NodePath) :
    Table.Sorted (nodes.withAncestors path) :=
  List.foldlRecOn path.ancestors _ h fun _ hnodes above _ => hnodes.insertNew above []

theorem put_sorted (h : Table.Sorted nodes) (path : NodePath) (properties : Properties) :
    Table.Sorted (nodes.put path properties) :=
  (withAncestors_sorted h path).insert path properties

theorem without_sorted (h : Table.Sorted nodes) (removed : Workspace) :
    Table.Sorted (nodes.without removed) :=
  List.foldlRecOn removed _ h fun _ hnodes entry _ => hnodes.erase entry.1

theorem relocate_sorted (h : Table.Sorted nodes) (source target : NodePath) :
    Table.Sorted (nodes.relocate source target) :=
  List.foldlRecOn (nodes.subtree source) _
    (withAncestors_sorted (without_sorted h _) target) fun _ hnodes _ _ => hnodes.insert _ _

section apart

variable (h : Table.Sorted nodes)
include h

/-- A subtree is left as it is by steps that change other nodes. -/
private theorem subtree_foldl {α : Type} {items : List α} {f : Workspace → α → Workspace}
    (hsorted : Table.Sorted (items.foldl f nodes))
    (hstep : ∀ (left : Workspace), ∀ item ∈ items,
      (f left item).filter (fun entry => entry.1.isAtOrBelow q) =
        left.filter fun entry => entry.1.isAtOrBelow q) :
    subtree (items.foldl f nodes) q = nodes.subtree q := by
  rw [subtree_eq_filter h, subtree_eq_filter hsorted]
  exact List.foldlRecOn
    (motive := fun (left : Workspace) => (left.filter fun entry => entry.1.isAtOrBelow q) =
      nodes.filter fun entry => entry.1.isAtOrBelow q) items f rfl
    fun left hleft item hitem => (hstep left item hitem).trans hleft

theorem subtree_insert (hapart : NodePath.Apart path q) (properties : Properties) :
    subtree (Table.insert path properties nodes) q = nodes.subtree q := by
  rw [subtree_eq_filter h, subtree_eq_filter (h.insert path properties)]
  exact Table.filter_insert nodes properties (p := fun path => path.isAtOrBelow q) hapart.1

theorem subtree_withAncestors (hapart : NodePath.Apart path q) :
    (nodes.withAncestors path).subtree q = nodes.subtree q := by
  refine subtree_foldl h (withAncestors_sorted h path) fun left above habove => ?_
  have hnot := hapart.above (NodePath.isBelow_iff.mp (NodePath.mem_ancestors.mp habove)).1
  exact Table.filter_insertNew left [] (p := fun path => path.isAtOrBelow q) hnot

theorem subtree_put (hapart : NodePath.Apart path q) (properties : Properties) :
    (nodes.put path properties).subtree q = nodes.subtree q :=
  (subtree_insert (withAncestors_sorted h path) hapart properties).trans
    (subtree_withAncestors h hapart)

theorem subtree_without (hapart : NodePath.Apart path q) :
    (nodes.without (nodes.subtree path)).subtree q = nodes.subtree q := by
  refine subtree_foldl h (without_sorted h _) fun left entry hentry => ?_
  have hnot := hapart.below (isAtOrBelow_of_mem_subtree hentry)
  exact Table.filter_erase left (p := fun path => path.isAtOrBelow q) hnot

/-- Moving nodes from one path to another leaves the subtree at a third path that is apart from both
as it is. -/
theorem subtree_relocate {source target : NodePath} (hsource : NodePath.Apart source q)
    (htarget : NodePath.Apart target q) :
    (nodes.relocate source target).subtree q = nodes.subtree q := by
  have hcleared := withAncestors_sorted (without_sorted h (nodes.subtree source)) target
  calc (nodes.relocate source target).subtree q
      = ((nodes.without (nodes.subtree source)).withAncestors target).subtree q := by
        refine subtree_foldl hcleared (relocate_sorted h source target) fun left entry _ => ?_
        have hnot := htarget.below (NodePath.isAtOrBelow_rebase entry.1 source target)
        exact Table.filter_insert left entry.2 (p := fun path => path.isAtOrBelow q) hnot
    _ = (nodes.without (nodes.subtree source)).subtree q :=
        subtree_withAncestors (without_sorted h _) htarget
    _ = nodes.subtree q := subtree_without h hsource

end apart

end ContentEngine.Workspace
