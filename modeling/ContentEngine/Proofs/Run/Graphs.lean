import ContentEngine.Proofs.Run.Reading
import ContentEngine.Proofs.Store.Subgraphs

/-!
# What graphs read

A connection to a store that is available reads a workspace as it is, and so does a graph over a source
that the store serves, whatever was done with the sources before: it finds a node if there is one, and
lists the nodes one level below it in order.

## Strategy

Stores that came about hold trees, and what a subgraph of a tree shows is known from
`Workspace.IsTree.shows_subgraph`.  A graph has the same answer as a connection
(`Graph.subgraph_ok_iff`); the node at a path is the root of what is read no level below it, and its
children are those of what is read one level below it.
-/

namespace ContentEngine

variable {held : List Stake} {s : System} {store : StoreId} {workspace : Option String}
  {nodes : Workspace}

/-! ## Connections -/

/-- What comes of reading a workspace: nothing if there is no node at the root path, and otherwise what
there is within the bounds. -/
structure Workspace.Read (nodes : Workspace) (root : NodePath) (depth : Nat)
    (read : Option Subgraph) : Prop where
  absent : read = none ↔ Table.get? nodes root = none
  shows : ∀ g, read = some g → g.Shows nodes root depth

/-- What comes of asking for the node at a path. -/
structure Workspace.Found (nodes : Workspace) (path : NodePath) (found : Option Node) : Prop where
  present : found.isSome = true ↔ Table.contains nodes path = true
  node : ∀ n, found = some n → n.path = path ∧ n.IsIn nodes

/-- What comes of asking for the children of a path, which has none if there is no node there. -/
structure Workspace.Listed (nodes : Workspace) (path : NodePath) (listed : List Node) : Prop where
  ordered : (listed.map Node.path).Pairwise (· < ·)
  paths : ∀ q, q ∈ listed.map Node.path ↔ Table.contains nodes q = true ∧ q.parent? = some path
  nodes : ∀ n ∈ listed, n.IsIn nodes

theorem Workspace.IsTree.read_subgraph (h : nodes.IsTree) (root : NodePath) (depth : Nat) :
    nodes.Read root depth (nodes.subgraph? root depth) where
  absent := subgraph?_eq_none_iff
  shows _ hg := h.shows_subgraph hg

theorem Workspace.found_subgraph (h : Table.Sorted nodes) (path : NodePath) :
    nodes.Found path ((nodes.subgraph? path 0).bind Subgraph.rootNode?) := by
  cases hread : nodes.subgraph? path 0 with
  | none =>
      have hnone := subgraph?_eq_none_iff.mp hread
      refine ⟨?_, nofun⟩
      rw [Table.contains, hnone]
      exact Iff.rfl
  | some g =>
      have hroot : g.rootNode? = g.node? path := congrArg g.node? (bounds_subgraph hread).1
      rw [Option.bind_some, hroot]
      refine ⟨(paths_subgraph h hread path).trans (and_iff_left ?_), fun n => nodes_subgraph h hread⟩
      exact ⟨NodePath.isAtOrBelow_self path, Nat.le_refl _⟩

theorem Workspace.listed_childNodes (h : Table.Sorted nodes) (path : NodePath) :
    nodes.Listed path (nodes.childNodes path) := by
  refine ⟨?_, fun q => ?_, fun n => childNodes_isIn h⟩
  · rw [childNodes_paths h]
    exact childPaths_ordered h path
  · rw [childNodes_paths h]
    exact mem_childPaths h path q

theorem Connection.read_open {c : Connection} {st : Store} (hopen : c.closed = false)
    (havailable : st.unavailable = false) (hnodes : st.read? workspace = some nodes) (root : NodePath)
    (depth : Nat) : c.read st workspace root depth = .ok (nodes.subgraph? root depth) := by
  have hnodes : st.workspace? (workspace.getD st.defaultWorkspace) = some nodes := hnodes
  unfold Connection.read Connection.ping
  simp only [hopen, havailable, Bool.false_eq_true, if_false, hnodes]
  rfl

/-! ## Graphs -/

section graphs

variable (h : Trading held s) {g : Graph} (hserves : s.Serves g.federation g.source store)
  (havailable : (s.depot.store store).unavailable = false)
  (hnodes : (s.depot.store store).read? g.workspace = some nodes)
include h hserves havailable hnodes

theorem Graph.subgraph_run (root : NodePath) (depth : Nat) :
    ((g.subgraph root depth).run s).1 = .ok (nodes.subgraph? root depth) :=
  (Graph.subgraph_ok_iff h hserves root depth _).mpr ⟨havailable, nodes, hnodes, rfl⟩

theorem Graph.node_run (path : NodePath) : ((g.node path).run s).1 =
    .ok ((nodes.subgraph? path 0).bind Subgraph.rootNode?) := by
  unfold Graph.node
  rw [run_bind, Graph.subgraph_run h hserves havailable hnodes]
  rfl

theorem Graph.children_run (htree : nodes.IsTree) (path : NodePath) :
    ((g.children path).run s).1 = .ok (nodes.childNodes path) := by
  unfold Graph.children
  rw [run_bind, Graph.subgraph_run h hserves havailable hnodes]
  cases hread : nodes.subgraph? path 1 with
  -- in a tree nothing is below a path without a node
  | none => exact congrArg Except.ok (htree.childNodes_absent hread).symm
  | some found =>
      have hchildren := Workspace.children_subgraph htree.sorted hread
      rw [(Workspace.bounds_subgraph hread).1] at hchildren
      exact congrArg Except.ok hchildren

end graphs

/-- A store that came about is read as it is, through each connection that is open and by each graph over
a source that it serves. -/
theorem reading_is_exact {st : Store} (h : st.Reached) (havailable : st.unavailable = false)
    (hnodes : st.read? workspace = some nodes) :
    (∀ c : Connection, c.closed = false → ∀ root depth, ∃ read,
      c.read st workspace root depth = .ok read ∧ nodes.Read root depth read) ∧
    ∀ held s, Trading held s → ∀ g : Graph, g.workspace = workspace → ∀ store,
      s.Serves g.federation g.source store → s.depot.store store = st → ∀ path,
        (∃ found, ((g.node path).run s).1 = .ok found ∧ nodes.Found path found) ∧
        ∃ listed, ((g.children path).run s).1 = .ok listed ∧ nodes.Listed path listed := by
  have htree : nodes.IsTree := h.sound.trees _ nodes hnodes
  constructor
  · intro c hopen root depth
    exact ⟨_, Connection.read_open hopen havailable hnodes root depth, htree.read_subgraph root depth⟩
  · rintro held s htrading g rfl store hserves rfl path
    exact ⟨⟨_, Graph.node_run htrading hserves havailable hnodes path,
        Workspace.found_subgraph htree.sorted path⟩,
      _, Graph.children_run htrading hserves havailable hnodes htree path,
        Workspace.listed_childNodes htree.sorted path⟩

/-- What is put into a store, and that it is bound to a source then. -/
def Store.branching : List StoreCall := [.edit (.put none "/a/b/c" []) (.ofMillis 0),
  .edit (.put none "/a/bc" []) (.ofMillis 1), .edit (.put none "/ab" []) (.ofMillis 2),
  .bind ⟨"engine", "docs", 0⟩]

/-- A federation with one source, whose store has content. -/
def System.branching : System :=
  ((registerConnector 0 "docs" ⟨.own (Store.branching.foldl StoreCall.after .new), .plain⟩).run
    ((addFederation (.new "engine" "config" 0 .connectors 2 1)).run .empty).2).2

/-- Nodes at the depth limit have their children, and names that begin with one another are apart. -/
theorem reading_is_exact_branching :
    let st := Store.branching.foldl StoreCall.after .new
    let path := NodePath.ofPieces "/a".toList
    ∃ nodes, st.read? none = some nodes ∧
      (∃ read, (Connection.mk 0 "docs" .always false false).read st none path 1 = .ok (some read) ∧
        read.Shows nodes path 1 ∧
        read.nodes.map (fun entry => (entry.1.text, entry.2.children.map NodePath.text)) =
          [("/a", ["/a/b", "/a/bc"]), ("/a/b", ["/a/b/c"]), ("/a/bc", [])]) ∧
      ∃ listed, ((Graph.children ⟨0, "docs", none⟩ path).run .branching).1 = .ok listed ∧
        nodes.Listed path listed ∧ listed.map (fun n => n.path.text) = ["/a/b", "/a/bc"] := by
  intro st path
  have hreached : st.Reached := ⟨_, .new, Store.branching, rfl⟩
  have htrading : Trading [] .branching :=
    .registerConnector 0 "docs" ⟨.own st, .plain⟩
      (.addFederation "engine" "config" 0 .connectors 2 1 .start)
  have hserves : System.branching.Serves 0 "docs" 0 := ⟨rfl, 0, rfl, rfl⟩
  obtain ⟨nodes, hnodes⟩ : ∃ nodes, st.read? none = some nodes := ⟨_, rfl⟩
  obtain ⟨hconnection, hgraph⟩ := reading_is_exact hreached rfl hnodes
  refine ⟨nodes, hnodes, ?_, ?_⟩
  · obtain ⟨read, hread, hshown⟩ := hconnection ⟨0, "docs", .always, false, false⟩ rfl path 1
    have hsome : ∃ g, (Connection.mk 0 "docs" .always false false).read st none path 1 = .ok (some g) ∧
        g.nodes.map (fun entry => (entry.1.text, entry.2.children.map NodePath.text)) =
          [("/a", ["/a/b", "/a/bc"]), ("/a/b", ["/a/b/c"]), ("/a/bc", [])] :=
      ⟨_, rfl, by decide +kernel⟩
    obtain ⟨g, hg, hnames⟩ := hsome
    have hsame : read = some g := Except.ok.inj (hread.symm.trans hg)
    exact ⟨g, hg, hshown.shows g hsame, hnames⟩
  · obtain ⟨-, listed, hlisted, hchildren⟩ :=
      hgraph [] .branching htrading ⟨0, "docs", none⟩ rfl 0 hserves rfl path
    have hsome : ∃ ns, ((Graph.children ⟨0, "docs", none⟩ path).run .branching).1 = .ok ns ∧
        ns.map (fun n => n.path.text) = ["/a/b", "/a/bc"] := ⟨_, rfl, by decide +kernel⟩
    obtain ⟨ns, hns, hnames⟩ := hsome
    obtain rfl : listed = ns := Except.ok.inj (hlisted.symm.trans hns)
    exact ⟨listed, hlisted, hchildren, hnames⟩

end ContentEngine
