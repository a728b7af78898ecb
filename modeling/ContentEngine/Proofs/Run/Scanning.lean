import ContentEngine.Proofs.Configuration.Records
import ContentEngine.Proofs.Run.Reading
import ContentEngine.Proofs.Store.Children

/-!
# Scanning a configuration tree

A scan of a tree in a store holds the records of all that is configured there, or it has errors.
-/

namespace ContentEngine

namespace Configuration

section container

variable {α : Type} {root : NodePath} {kind : Container}

/-- A container without errors was read. -/
theorem ok_of_recordsOfRead {records : Subgraph → List α × Problems} {read : ContainerRead}
    (h : Problems.hasErrors (recordsOfRead root kind records read).2 = false) :
    ∃ container, read = .ok container := by
  cases read with
  | ok container => exact ⟨container, rfl⟩
  | error fault => cases h

/-- The records of a container that was read without errors are those of all children in the tree. -/
theorem forall₂_recordsOfRead {recordOf : Child → Option α × Problems} {S : Node → α → Prop}
    {nodes : Workspace} (htree : nodes.IsTree) {container : Option Subgraph}
    (hread : nodes.subgraph? (kind.path root) 1 = container)
    (h : Problems.hasErrors (recordsOfRead root kind (recordsOf recordOf) (.ok container)).2 = false)
    (hrecord : ∀ c : Child, c.name = resolvedName c.node → Problems.hasErrors (recordOf c).2 = false →
      ∃ r, (recordOf c).1 = some r ∧ S c.node r) :
    List.Forall₂ S (nodes.childNodes (kind.path root))
      (recordsOfRead root kind (recordsOf recordOf) (.ok container)).1 := by
  cases container with
  | none =>
      rw [htree.childNodes_absent hread]
      exact .nil
  | some g =>
      rw [← Workspace.children_subgraph htree.sorted hread]
      exact forall₂_recordsOf h hrecord

end container

/-! ## Scans -/

/-- A read had an answer only if there is a workspace, and then the answer is what the workspace has
there. -/
def ReadFrom (contents : Option Workspace) (path : NodePath) (read : ContainerRead) : Prop :=
  ∀ container, read = .ok container →
    ∃ nodes, contents = some nodes ∧ nodes.subgraph? path 1 = container

/-- A scan holds the records of all that is configured in a tree. -/
structure Scan.Complete (scan : Scan) (root : NodePath) (nodes : Workspace) : Prop where
  sources : List.Forall₂ DescribesSource (nodes.childNodes (Container.sources.path root)) scan.sources
  processors : List.Forall₂ DescribesRule (nodes.childNodes (Container.processors.path root))
    scan.processors
  detectors : List.Forall₂ DescribesDetector (nodes.childNodes (Container.detectors.path root))
    scan.detectors

theorem scan_complete {contents : Option Workspace} {root : NodePath}
    {sourcesRead processorsRead detectorsRead : ContainerRead}
    (htree : ∀ nodes, contents = some nodes → nodes.IsTree)
    (hsources : ReadFrom contents (Container.sources.path root) sourcesRead)
    (hprocessors : ReadFrom contents (Container.processors.path root) processorsRead)
    (hdetectors : ReadFrom contents (Container.detectors.path root) detectorsRead)
    (hno : Problems.hasErrors (scan root sourcesRead processorsRead detectorsRead).problems = false) :
    ∃ nodes, contents = some nodes ∧
      (scan root sourcesRead processorsRead detectorsRead).Complete root nodes := by
  unfold scan at hno ⊢
  rw [Problems.hasErrors_append, Problems.hasErrors_append, Bool.or_eq_false_iff,
    Bool.or_eq_false_iff] at hno
  obtain ⟨⟨hno₁, hno₂⟩, hno₃⟩ := hno
  obtain ⟨_, rfl⟩ := ok_of_recordsOfRead hno₁
  obtain ⟨_, rfl⟩ := ok_of_recordsOfRead hno₂
  obtain ⟨_, rfl⟩ := ok_of_recordsOfRead hno₃
  obtain ⟨nodes, hnodes, hroot⟩ := hsources _ rfl
  obtain ⟨_, hnodes₂, hroot₂⟩ := hprocessors _ rfl
  obtain rfl := Option.some.inj (hnodes.symm.trans hnodes₂)
  obtain ⟨_, hnodes₃, hroot₃⟩ := hdetectors _ rfl
  obtain rfl := Option.some.inj (hnodes.symm.trans hnodes₃)
  have htree := htree nodes hnodes
  exact ⟨nodes, hnodes,
    forall₂_recordsOfRead htree hroot hno₁ fun _ hname => sourceOf_no_errors hname,
    forall₂_recordsOfRead htree hroot₂ hno₂ fun _ hname => processorOf_no_errors hname,
    forall₂_recordsOfRead htree hroot₃ hno₃ fun _ hname => detectorOf_no_errors hname⟩

end Configuration

variable {held : List Stake} {s s₀ : System} {store : StoreId}

theorem Background.scanConfiguration (g : Graph) (root : NodePath) :
    Ensures (Background s₀) (scanConfiguration g root) fun _ => Background s₀ := by
  unfold ContentEngine.scanConfiguration
  refine .andThen (subgraph g _ 1) fun _ => ?_
  refine .andThen (subgraph g _ 1) fun _ => ?_
  exact .andThen (subgraph g _ 1) fun _ => .answer fun _ hs => hs

/-- A scan without errors of a tree that a store serves is complete. -/
theorem scanConfiguration_complete (h : Trading held s) {g : Graph}
    (hserves : s.Serves g.federation g.source store) (hun : s.Unthreatened g.federation)
    (hsound : (s.depot.store store).Sound) (root : NodePath)
    (hno : Problems.hasErrors ((scanConfiguration g root).run s).1.problems = false) :
    ∃ nodes, (s.depot.store store).read? g.workspace = some nodes ∧
      ((scanConfiguration g root).run s).1.Complete root nodes := by
  -- what is read later on comes from the same store
  have hread : ∀ {s' : System} path, Trading held s' → Background s s' →
      Configuration.ReadFrom ((s.depot.store store).read? g.workspace) path
        ((g.subgraph path 1).run s').1 := fun {s'} path h' hbackground container hok => by
    have hsame : s'.depot.store store = s.depot.store store := by
      rw [Depot.store, hbackground.depot.stores, Depot.store]
    rw [← hsame]
    exact ((Graph.subgraph_ok_iff h' (hserves.of_background hbackground hun) path 1 container).mp hok).2
  have hlater : ∀ path, Ensures (fun s' => Trading held s' ∧ Background s s') (g.subgraph path 1)
      fun _ s' => Trading held s' ∧ Background s s' := fun path s' hs =>
    ⟨lasting_trading.subgraph held g path 1 s' hs.1, Background.subgraph g path 1 s' hs.2⟩
  unfold scanConfiguration at hno ⊢
  rw [run_bind, run_bind, run_bind] at hno ⊢
  have h₁ := hlater (Configuration.Container.sources.path root) s ⟨h, .refl s⟩
  have h₂ := hlater (Configuration.Container.processors.path root) _ h₁
  exact Configuration.scan_complete (fun nodes hnodes => hsound.trees _ _ hnodes)
    (hread _ h (.refl s)) (hread _ h₁.1 h₁.2) (hread _ h₂.1 h₂.2) hno

end ContentEngine
