import ContentEngine.Proofs.Store.Trees

/-!
# What is read below a path

A subgraph holds exactly the nodes of its bounds, each with all its children, whether these are within
the bounds or not.  One level below a path it lists the nodes there in the order of their names.
-/

namespace ContentEngine.Workspace

variable {nodes : Workspace} {path : NodePath} {depth : Nat} {g : Subgraph}

/-- The node at a path of a workspace, as it is read. -/
def nodeOf (nodes : Workspace) (path : NodePath) (properties : Properties) : Node :=
  ⟨path, properties, nodes.childPaths path⟩

/-- The nodes one level below a path, in ascending order. -/
def childNodes (nodes : Workspace) (path : NodePath) : List Node :=
  (nodes.filter fun entry => entry.1.isAtOrBelow path && entry.1.depth == path.depth + 1).map
    fun entry => nodes.nodeOf entry.1 entry.2

/-- The nodes at or below a root path and at most `depth` levels below it. -/
private def within (nodes : Workspace) (root : NodePath) (depth : Nat) : Workspace :=
  nodes.filter fun entry => entry.1.isAtOrBelow root && decide (entry.1.depth - root.depth ≤ depth)

/-- Nodes within the bounds of a subgraph are put into its table. -/
private theorem foldl_insert_within (nodes : Workspace) {entries : Workspace} {g : Subgraph}
    (h : ∀ entry ∈ entries, g.covers entry.1 = true) :
    entries.foldl (fun g entry => g.insert (nodes.nodeOf entry.1 entry.2)) g = { g with
      nodes := (entries.map fun entry => (entry.1, nodes.nodeOf entry.1 entry.2)).foldl
        (fun table entry => Table.insert entry.1 entry.2 table) g.nodes } := by
  induction entries generalizing g with
  | nil => rfl
  | cons first rest ih =>
      obtain ⟨hfirst, hrest⟩ := List.forall_mem_cons.mp h
      have hinsert : g.insert (nodes.nodeOf first.1 first.2) =
          { g with nodes := Table.insert first.1 (nodes.nodeOf first.1 first.2) g.nodes } :=
        if_pos hfirst
      rw [List.foldl_cons, hinsert]
      exact ih hrest

/-- The nodes of a subgraph are those of the workspace within its bounds. -/
theorem node?_subgraph (h : Table.Sorted nodes) (hg : nodes.subgraph? path depth = some g) :
    g.root = path ∧ ∀ q, g.node? q =
      if q.isAtOrBelow path && decide (q.depth - path.depth ≤ depth) then
        (Table.get? nodes q).map (nodes.nodeOf q)
      else none := by
  have hentries : (nodes.subtree path).filter (fun entry => entry.1.depth - path.depth ≤ depth) =
      nodes.within path depth := by
    rw [subtree_eq_filter h, List.filter_filter]
    exact List.filter_congr fun entry _ => Bool.and_comm _ _
  have hcovered : ∀ entry ∈ nodes.within path depth, (Subgraph.empty path depth).covers entry.1 = true :=
    fun entry hentry => (List.mem_filter.mp hentry).2
  have hnodup : (((nodes.within path depth).map fun entry =>
      (entry.1, nodes.nodeOf entry.1 entry.2)).map Prod.fst).Nodup := by
    rw [List.map_map]
    exact Table.Sorted.nodup_keys (List.Pairwise.sublist List.filter_sublist h)
  unfold subgraph? at hg
  split at hg
  · rw [hentries] at hg
    obtain rfl := Option.some.inj
      ((congrArg some (foldl_insert_within nodes hcovered)).symm.trans hg)
    refine ⟨rfl, fun q => ?_⟩
    refine (Table.get?_foldl_insert hnodup [] q).trans ?_
    rw [Table.get?_map fun entry => nodes.nodeOf entry.1 entry.2]
    unfold within
    split
    · rename_i hq
      rw [Table.get?_filter nodes (p := fun q => q.isAtOrBelow path &&
        decide (q.depth - path.depth ≤ depth)) hq]
      exact Option.or_none
    · rename_i hq
      rw [Table.get?_filter_of_not nodes (p := fun q => q.isAtOrBelow path &&
        decide (q.depth - path.depth ≤ depth)) (by simpa using hq)]
      rfl
  · cases hg

/-- The scan for children finds the paths one level below. -/
theorem childPaths_eq_map (h : Table.Sorted nodes) (path : NodePath) :
    nodes.childPaths path = (nodes.filter fun entry =>
      entry.1.isAtOrBelow path && entry.1.depth == path.depth + 1).map Prod.fst := by
  unfold childPaths
  rw [subtree_eq_filter h, List.filter_map, List.filter_filter]
  exact congrArg (List.map Prod.fst) (List.filter_congr fun entry _ => Bool.and_comm _ _)

/-- The children of the root of a subgraph that reaches below it are all its children. -/
theorem children_subgraph (h : Table.Sorted nodes) (hg : nodes.subgraph? path (depth + 1) = some g) :
    g.children g.root = nodes.childNodes path := by
  obtain ⟨hroot, hnode⟩ := node?_subgraph h hg
  have hthere : Table.contains nodes path = true := by
    unfold subgraph? at hg
    split at hg
    · assumption
    · cases hg
  obtain ⟨properties, hproperties⟩ := Option.isSome_iff_exists.mp hthere
  have hself : g.node? path = some (nodes.nodeOf path properties) := by
    rw [hnode, hproperties]
    simp
  unfold Subgraph.children
  rw [hroot, hself]
  dsimp only [nodeOf]
  rw [childPaths_eq_map h, List.filterMap_map, childNodes, ← List.filterMap_eq_map]
  refine List.filterMap_congr fun entry hentry => ?_
  obtain ⟨hmem, hchild⟩ := List.mem_filter.mp hentry
  obtain ⟨hbelow, hdepth⟩ := Bool.and_eq_true_iff.mp hchild
  have hdepth : entry.1.depth = path.depth + 1 := by simpa using hdepth
  have hwithin : entry.1.depth - path.depth ≤ depth + 1 := by omega
  simp [hnode, hbelow, hwithin, h.get?_of_mem hmem]

/-- A path without a node has no children. -/
theorem IsTree.childNodes_absent (h : IsTree nodes) (hpath : nodes.subgraph? path depth = none) :
    nodes.childNodes path = [] := by
  have hfree : Table.contains nodes path = false := by
    unfold subgraph? at hpath
    split at hpath
    · cases hpath
    · simpa using ‹¬Table.contains nodes path = true›
  unfold childNodes
  rw [List.map_eq_nil_iff, List.filter_eq_nil_iff]
  intro entry hentry hchild
  have hbelow := (Bool.and_eq_true_iff.mp hchild).1
  have hfound := h.get?_below_free hfree entry.1 hbelow
  rw [h.sorted.get?_of_mem hentry] at hfound
  cases hfound

end ContentEngine.Workspace
