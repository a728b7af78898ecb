import ContentEngine.Proofs.Store.Children
import Mathlib.Logic.Relation

/-!
# What subgraphs show

A subgraph that is read from a workspace shows a part of it as it is: all nodes that its bounds allow and
no others, each with the properties it has and with all its children, those beyond the bounds as well.

## Strategy

The nodes and the children of each of them are found by scans of the workspace in order.  A scan for
children finds the paths whose parent the node is, so a node of a subgraph says of the workspace what
`Node.IsIn` says, and nothing else does.  Workspaces are trees: the parent of a node that is shown is
shown too unless the node is the root, and so all nodes hang together.
-/

namespace ContentEngine

/-- A node as a workspace has it, with the paths one level below it in ascending order. -/
structure Node.IsIn (n : Node) (nodes : Workspace) : Prop where
  properties : Table.get? nodes n.path = some n.properties
  ordered : n.children.Pairwise (· < ·)
  children : ∀ q, q ∈ n.children ↔ Table.contains nodes q = true ∧ q.parent? = some n.path

namespace Subgraph

/-- From a node of a subgraph to one of its children there. -/
def Step (g : Subgraph) (p q : NodePath) : Prop :=
  ∃ n ∈ g.children p, n.path = q

/-- What the subgraph of some levels below a root path shows of a workspace. -/
structure Shows (g : Subgraph) (nodes : Workspace) (root : NodePath) (depth : Nat) : Prop where
  bounds : g.root = root ∧ g.depth = depth
  ordered : Table.Sorted g.nodes
  /-- No path within the bounds is left out. -/
  paths : ∀ q, (g.node? q).isSome = true ↔
    Table.contains nodes q = true ∧ q.isAtOrBelow root = true ∧ q.depth ≤ root.depth + depth
  nodes : ∀ q n, g.node? q = some n → n.path = q ∧ n.IsIn nodes
  connected : ∀ q, (g.node? q).isSome = true → Relation.ReflTransGen g.Step root q

end Subgraph

namespace Workspace

variable {nodes : Workspace} {root : NodePath} {depth : Nat} {g : Subgraph}

/-! ## Children -/

theorem childPaths_ordered (h : Table.Sorted nodes) (path : NodePath) :
    (nodes.childPaths path).Pairwise (· < ·) := by
  unfold childPaths
  exact (List.pairwise_map.mpr (subtree_sorted h path)).sublist List.filter_sublist

theorem mem_childPaths (h : Table.Sorted nodes) (path q : NodePath) :
    q ∈ nodes.childPaths path ↔ Table.contains nodes q = true ∧ q.parent? = some path := by
  unfold Table.contains
  rw [childPaths_eq_map h, List.mem_map, NodePath.parent?_eq_some_iff, Option.isSome_iff_exists]
  constructor
  · rintro ⟨entry, hentry, rfl⟩
    obtain ⟨hmem, hchild⟩ := List.mem_filter.mp hentry
    rw [Bool.and_eq_true, beq_iff_eq] at hchild
    exact ⟨⟨entry.2, h.get?_of_mem hmem⟩, hchild⟩
  · rintro ⟨⟨properties, hproperties⟩, hchild⟩
    refine ⟨(q, properties), List.mem_filter.mpr ⟨Table.mem_of_get? hproperties, ?_⟩, rfl⟩
    rwa [Bool.and_eq_true, beq_iff_eq]

/-- The nodes one level below a path are at the paths that are listed as its children. -/
theorem childNodes_paths (h : Table.Sorted nodes) (path : NodePath) :
    (nodes.childNodes path).map Node.path = nodes.childPaths path := by
  unfold childNodes
  rw [childPaths_eq_map h, List.map_map]
  rfl

/-- A node that is read is as the workspace has it. -/
theorem nodeOf_isIn (h : Table.Sorted nodes) {path : NodePath} {properties : Properties}
    (hpath : Table.get? nodes path = some properties) : (nodes.nodeOf path properties).IsIn nodes :=
  ⟨hpath, childPaths_ordered h path, mem_childPaths h path⟩

theorem childNodes_isIn (h : Table.Sorted nodes) {path : NodePath} {n : Node}
    (hn : n ∈ nodes.childNodes path) : n.IsIn nodes := by
  obtain ⟨entry, hentry, rfl⟩ := List.mem_map.mp hn
  exact nodeOf_isIn h (h.get?_of_mem (List.mem_filter.mp hentry).1)

/-! ## Subgraphs -/

/-- What holds of a subgraph without nodes and is kept by adding nodes holds of what is read. -/
theorem subgraph?_induction {motive : Subgraph → Prop} (hempty : motive (.empty root depth))
    (hinsert : ∀ g n, motive g → motive (g.insert n)) (hg : nodes.subgraph? root depth = some g) :
    motive g := by
  unfold subgraph? at hg
  split at hg
  · obtain rfl := Option.some.inj hg
    exact List.foldlRecOn _ _ hempty fun g hg entry _ => hinsert g _ hg
  · cases hg

theorem bounds_subgraph (hg : nodes.subgraph? root depth = some g) :
    g.root = root ∧ g.depth = depth := by
  refine subgraph?_induction (motive := fun g => g.root = root ∧ g.depth = depth) ⟨rfl, rfl⟩
    (fun g n hbounds => ?_) hg
  unfold Subgraph.insert
  split
  · exact hbounds
  · exact hbounds

theorem ordered_subgraph (hg : nodes.subgraph? root depth = some g) : Table.Sorted g.nodes := by
  refine subgraph?_induction (motive := fun g => Table.Sorted g.nodes) .nil (fun g n hordered => ?_) hg
  unfold Subgraph.insert
  split
  · exact hordered.insert n.path n
  · exact hordered

theorem subgraph?_eq_none_iff : nodes.subgraph? root depth = none ↔ Table.get? nodes root = none := by
  unfold subgraph? Table.contains
  split
  · rename_i hthere
    refine ⟨fun hnone => absurd hnone (Option.some_ne_none _), fun hnone => ?_⟩
    rw [hnone] at hthere
    exact absurd hthere Bool.false_ne_true
  · rename_i hfree
    exact ⟨fun _ => Option.not_isSome_iff_eq_none.mp hfree, fun _ => rfl⟩

theorem paths_subgraph (h : Table.Sorted nodes) (hg : nodes.subgraph? root depth = some g)
    (q : NodePath) : (g.node? q).isSome = true ↔
      Table.contains nodes q = true ∧ q.isAtOrBelow root = true ∧ q.depth ≤ root.depth + depth := by
  rw [(node?_subgraph h hg).2 q, ← Nat.sub_le_iff_le_add', and_comm]
  unfold Table.contains
  split
  · rename_i hwithin
    rw [Bool.and_eq_true, decide_eq_true_iff] at hwithin
    rw [Option.isSome_map]
    exact (and_iff_right hwithin).symm
  · rename_i hwithin
    rw [Bool.and_eq_true, decide_eq_true_iff] at hwithin
    exact ⟨fun hnone => absurd hnone Bool.false_ne_true, fun hfound => absurd hfound.1 hwithin⟩

theorem nodes_subgraph (h : Table.Sorted nodes) (hg : nodes.subgraph? root depth = some g)
    {q : NodePath} {n : Node} (hn : g.node? q = some n) : n.path = q ∧ n.IsIn nodes := by
  rw [(node?_subgraph h hg).2 q] at hn
  split at hn
  · obtain ⟨properties, hproperties, rfl⟩ := Option.map_eq_some_iff.mp hn
    exact ⟨rfl, nodeOf_isIn h hproperties⟩
  · cases hn

/-- A node whose parent is shown as well is one step away from it. -/
theorem step_subgraph (h : Table.Sorted nodes) (hg : nodes.subgraph? root depth = some g)
    {p q : NodePath} (hp : (g.node? p).isSome = true) (hq : (g.node? q).isSome = true)
    (hparent : q.parent? = some p) : g.Step p q := by
  obtain ⟨n, hn⟩ := Option.isSome_iff_exists.mp hp
  obtain ⟨child, hchild⟩ := Option.isSome_iff_exists.mp hq
  obtain ⟨hpath, hisin⟩ := nodes_subgraph h hg hn
  have hthere := ((paths_subgraph h hg q).mp hq).1
  refine ⟨child, ?_, (nodes_subgraph h hg hchild).1⟩
  unfold Subgraph.children
  rw [hn]
  exact List.mem_filterMap.mpr ⟨q, (hisin.children q).mpr ⟨hthere, hpath.symm ▸ hparent⟩, hchild⟩

/-- From the root of a subgraph all its nodes are reached, level by level. -/
theorem IsTree.connected_subgraph (h : IsTree nodes) (hg : nodes.subgraph? root depth = some g)
    {q : NodePath} (hq : (g.node? q).isSome = true) : Relation.ReflTransGen g.Step root q := by
  obtain ⟨level, hlevel⟩ : ∃ level, level = q.depth := ⟨_, rfl⟩
  induction level generalizing q with
  | zero =>
      obtain ⟨-, hbelow, -⟩ := (paths_subgraph h.sorted hg q).mp hq
      have hdepth : q.depth ≤ root.depth := hlevel ▸ Nat.zero_le _
      rw [NodePath.ext ((NodePath.isAtOrBelow_iff.mp hbelow).eq_of_length_le hdepth)]
  | succ level ih =>
      obtain ⟨hthere, hbelow, hdepth⟩ := (paths_subgraph h.sorted hg q).mp hq
      by_cases heq : q = root
      · rw [heq]
      -- the parent is within the bounds as well, so it is shown and comes before
      obtain ⟨p, hparent, hp⟩ := NodePath.exists_parent? (NodePath.isBelow_iff.mpr ⟨hbelow, heq⟩)
      obtain ⟨habove, hone⟩ := NodePath.parent?_eq_some_iff.mp hparent
      have hshown : (g.node? p).isSome = true :=
        (paths_subgraph h.sorted hg p).mpr ⟨h.above q p hthere habove, hp, by omega⟩
      exact (ih hshown (by omega)).tail (step_subgraph h.sorted hg hshown hq hparent)

/-- A subgraph of a tree shows it as it is. -/
theorem IsTree.shows_subgraph (h : IsTree nodes) (hg : nodes.subgraph? root depth = some g) :
    g.Shows nodes root depth where
  bounds := bounds_subgraph hg
  ordered := ordered_subgraph hg
  paths := paths_subgraph h.sorted hg
  nodes _ _ := nodes_subgraph h.sorted hg
  connected _ := h.connected_subgraph hg

end Workspace

end ContentEngine
