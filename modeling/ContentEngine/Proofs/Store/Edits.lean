import ContentEngine.Configuration.Tree
import ContentEngine.Proofs.Store.Workspace

/-!
# Edits of stores

An edit changes one workspace, or nothing.  The event about it names the workspace, and paths such
that everything else that is read below a path apart from them is as before.
-/

namespace ContentEngine

/-- A change does not concern what is read below a path: it is one of another workspace, or its paths
are apart from the path. -/
def Change.Misses (c : Change) (workspace : Option String) (q : NodePath) : Prop :=
  (∃ name, workspace = some name ∧ name ≠ c.workspace) ∨ ∀ p ∈ c.paths, NodePath.Apart p q

namespace Store

/-- The nodes of a workspace, the default one if none is named. -/
def read? (s : Store) (workspace : Option String) : Option Workspace :=
  s.workspace? (workspace.getD s.defaultWorkspace)

/-- The container of sources below a configuration root. -/
def container? (s : Store) (root : NodePath) (workspace : Option String) : Option Subgraph :=
  (s.read? workspace).bind fun nodes =>
    nodes.subgraph? (Configuration.Container.sources.path root) 1

/-- All workspaces are in order. -/
def Ordered (s : Store) : Prop :=
  ∀ name nodes, s.workspace? name = some nodes → Table.Sorted nodes

/-- What an edit makes of a store, and the change that it tells of. -/
inductive Edit (s : Store) : Store → Option Change → Prop
  | none : Edit s s none
  | change {name kind paths} {nodes nodes' : Workspace} : s.workspace? name = some nodes →
      (Table.Sorted nodes → Table.Sorted nodes' ∧
        ∀ q, (∀ p ∈ paths, NodePath.Apart p q) → nodes'.subtree q = nodes.subtree q) →
      Edit s (s.setWorkspace name nodes') (some ⟨name, kind, paths⟩)

theorem workspace?_setWorkspace (s : Store) (name other : String) (nodes : Workspace) :
    (s.setWorkspace name nodes).workspace? other =
      if other = name then some nodes else s.workspace? other :=
  Table.get?_insert ..

/-- The properties of the node at a path of a workspace. -/
def lookup? (s : Store) (name : String) (q : NodePath) : Option Properties :=
  (s.workspace? name).bind fun nodes => Table.get? nodes q

theorem lookup?_of_workspace? {s : Store} {name : String} {nodes : Workspace}
    (h : s.workspace? name = some nodes) (q : NodePath) : s.lookup? name q = Table.get? nodes q := by
  rw [lookup?, h, Option.bind_some]

theorem lookup?_setWorkspace (s : Store) (name : String) (nodes : Workspace) (q : NodePath) :
    (s.setWorkspace name nodes).lookup? name q = Table.get? nodes q :=
  lookup?_of_workspace? (by rw [workspace?_setWorkspace, if_pos rfl]) q

namespace Edit

variable {s s' : Store} {changed : Option Change}

theorem kept (h : Edit s s' changed) : s'.defaultWorkspace = s.defaultWorkspace ∧
    s'.binding = s.binding ∧ s'.unavailable = s.unavailable := by
  cases h <;> exact ⟨rfl, rfl, rfl⟩

theorem ordered (h : Edit s s' changed) (hordered : s.Ordered) : s'.Ordered := by
  cases h with
  | none => exact hordered
  | change hnodes hedit =>
      intro other nodes hother
      rw [workspace?_setWorkspace] at hother
      split at hother
      · obtain rfl := Option.some.inj hother
        exact (hedit (hordered _ _ hnodes)).1
      · exact hordered other nodes hother

/-- Workspaces stay. -/
theorem read?_isSome (h : Edit s s' changed) {workspace : Option String}
    (hread : (s.read? workspace).isSome) : (s'.read? workspace).isSome := by
  cases h with
  | none => exact hread
  | change _ _ =>
      change ((s.setWorkspace _ _).workspace? _).isSome
      rw [workspace?_setWorkspace]
      split
      · rfl
      · exact hread

/-- A container of sources that a change misses is as before. -/
theorem container?_eq (h : Edit s s' changed) (hordered : s.Ordered) (root : NodePath)
    {workspace : Option String}
    (hmisses : ∀ c, changed = some c →
      c.Misses workspace (Configuration.Container.sources.path root)) :
    s'.container? root workspace = s.container? root workspace := by
  cases h with
  | none => rfl
  | @change name kind paths nodes nodes' hnodes hedit =>
      have hread : (s.setWorkspace name nodes').read? workspace =
          if workspace.getD s.defaultWorkspace = name then some nodes' else s.read? workspace :=
        workspace?_setWorkspace ..
      unfold container?
      rw [hread]
      split
      · rename_i hname
        have hbefore : s.read? workspace = some nodes := by rw [read?, hname, hnodes]
        rcases hmisses _ rfl with ⟨pinned, hpinned, hother⟩ | hapart
        · rw [hpinned] at hname
          exact absurd hname hother
        · have hsorted := hordered _ _ hnodes
          obtain ⟨hsorted', hsame⟩ := hedit hsorted
          rw [hbefore]
          exact Workspace.subgraph?_congr hsorted hsorted' (hsame _ hapart) 1
      · rfl

end Edit

/-! ## The edits -/

section edits

variable {s s' : Store} {changed : Change}

private theorem ok_of_bind {ε α β : Type} {x : Except ε α} {f : α → Except ε β} {b : β}
    (h : x >>= f = .ok b) : ∃ a, x = .ok a ∧ f a = .ok b := by
  cases x with
  | error e => cases h
  | ok a => exact ⟨a, rfl, h⟩

private theorem readPath_of_parse {text : String} {path : NodePath} (h : NodePath.parse text = .ok path) :
    readPath text = .ok path := by
  unfold readPath
  rw [h]

private theorem parse_of_readPath {text : String} {path : NodePath} (h : readPath text = .ok path) :
    NodePath.parse text = .ok path := by
  unfold readPath at h
  split at h
  · rename_i heq
    rw [heq, Except.ok.inj h]
  · cases h

private theorem requireWorkspace_of {name : String} {nodes : Workspace}
    (h : s.workspace? name = some nodes) : s.requireWorkspace name = .ok nodes := by
  unfold requireWorkspace
  rw [h]

private theorem workspace?_of_require {name : String} {nodes : Workspace}
    (h : s.requireWorkspace name = .ok nodes) : s.workspace? name = some nodes := by
  unfold requireWorkspace at h
  split at h
  · rename_i heq
    rw [heq, Except.ok.inj h]
  · cases h

theorem putIn_ok {workspace text : String} {properties : Properties}
    (h : s.putIn workspace text properties = .ok (s', changed)) :
    ∃ path nodes, NodePath.parse text = .ok path ∧ s.workspace? workspace = some nodes ∧
      s' = s.setWorkspace workspace (nodes.put path properties) ∧
      changed.workspace = workspace ∧ changed.paths = [path] := by
  obtain ⟨path, hpath, h⟩ := ok_of_bind h
  obtain ⟨nodes, hnodes, h⟩ := ok_of_bind h
  obtain ⟨rfl, rfl⟩ := Prod.mk.inj (Except.ok.inj h)
  exact ⟨path, nodes, parse_of_readPath hpath, workspace?_of_require hnodes, rfl, rfl, rfl⟩

theorem setProperty_ok {text name : String} {value : Value}
    (h : s.setProperty text name value = .ok (s', changed)) :
    ∃ path nodes properties, NodePath.parse text = .ok path ∧
      s.workspace? s.defaultWorkspace = some nodes ∧ Table.get? nodes path = some properties ∧
      s' = s.setWorkspace s.defaultWorkspace
        (Table.insert path (Table.insert name value properties) nodes) ∧
      changed = ⟨s.defaultWorkspace, .modified, [path]⟩ := by
  obtain ⟨path, hpath, h⟩ := ok_of_bind h
  obtain ⟨nodes, hnodes, h⟩ := ok_of_bind h
  dsimp only at h
  split at h
  · cases h
  rename_i properties hproperties
  obtain ⟨rfl, rfl⟩ := Prod.mk.inj (Except.ok.inj h)
  exact ⟨path, nodes, properties, parse_of_readPath hpath, workspace?_of_require hnodes, hproperties,
    rfl, rfl⟩

theorem remove_ok {text : String} {changed : Option Change} :
    s.remove text = .ok (s', changed) ↔
      ∃ path nodes, NodePath.parse text = .ok path ∧ path.isRoot = false ∧
        s.workspace? s.defaultWorkspace = some nodes ∧
        ((nodes.subtree path = [] ∧ s' = s ∧ changed = none) ∨
          (nodes.subtree path ≠ [] ∧
            s' = s.setWorkspace s.defaultWorkspace (nodes.without (nodes.subtree path)) ∧
            changed = some ⟨s.defaultWorkspace, .removed, [path]⟩)) := by
  constructor
  · intro h
    obtain ⟨path, hpath, h⟩ := ok_of_bind h
    dsimp only at h
    split at h
    · cases h
    rename_i hroot
    obtain ⟨nodes, hnodes, h⟩ := ok_of_bind h
    refine ⟨path, nodes, parse_of_readPath hpath, by simpa using hroot, workspace?_of_require hnodes, ?_⟩
    split at h
    · rename_i hempty
      obtain ⟨rfl, rfl⟩ := Prod.mk.inj (Except.ok.inj h)
      exact .inl ⟨by simpa using hempty, rfl, rfl⟩
    · rename_i hempty
      obtain ⟨rfl, rfl⟩ := Prod.mk.inj (Except.ok.inj h)
      exact .inr ⟨by simpa using hempty, rfl, rfl⟩
  · rintro ⟨path, nodes, hpath, hroot, hnodes, hcases⟩
    unfold remove
    simp only [readPath_of_parse hpath, bind, Except.bind, hroot, requireWorkspace_of hnodes,
      Bool.false_eq_true, if_false]
    rcases hcases with ⟨hempty, rfl, rfl⟩ | ⟨hempty, rfl, rfl⟩
    · rw [if_pos (List.isEmpty_iff.mpr hempty)]
    · rw [if_neg (mt List.isEmpty_iff.mp hempty)]

theorem move_ok {a b : String} :
    s.move a b = .ok (s', changed) ↔
      ∃ source target nodes, NodePath.parse a = .ok source ∧ NodePath.parse b = .ok target ∧
        s.workspace? s.defaultWorkspace = some nodes ∧ target.isAtOrBelow source = false ∧
        Table.contains nodes source = true ∧ Table.contains nodes target = false ∧
        s' = s.setWorkspace s.defaultWorkspace (nodes.relocate source target) ∧
        changed = ⟨s.defaultWorkspace, .moved, [source, target]⟩ := by
  constructor
  · intro h
    obtain ⟨source, hsource, h⟩ := ok_of_bind h
    obtain ⟨target, htarget, h⟩ := ok_of_bind h
    split at h
    · cases h
    rename_i hbelow
    obtain ⟨nodes, hnodes, h⟩ := ok_of_bind h
    split at h
    · cases h
    rename_i hexists
    split at h
    · cases h
    rename_i hfree
    obtain ⟨rfl, rfl⟩ := Prod.mk.inj (Except.ok.inj h)
    exact ⟨source, target, nodes, parse_of_readPath hsource, parse_of_readPath htarget,
      workspace?_of_require hnodes, by simpa using hbelow, by simpa using hexists,
      by simpa using hfree, rfl, rfl⟩
  · rintro ⟨source, target, nodes, hsource, htarget, hnodes, hbelow, hexists, hfree, rfl, rfl⟩
    unfold move
    rw [readPath_of_parse hsource, readPath_of_parse htarget]
    simp only [bind, Except.bind, hbelow, requireWorkspace_of hnodes, hexists, hfree,
      Bool.false_eq_true, Bool.not_true, if_false]

theorem putIn_edit {workspace text : String} {properties : Properties}
    (h : s.putIn workspace text properties = .ok (s', changed)) : Edit s s' (some changed) := by
  obtain ⟨path, nodes, -, hnodes, rfl, hworkspace, hpaths⟩ := putIn_ok h
  obtain ⟨_, kind, _⟩ := changed
  subst hworkspace hpaths
  refine .change hnodes fun hsorted => ⟨?_, fun q hapart => ?_⟩
  · exact Workspace.put_sorted hsorted path properties
  · exact Workspace.subtree_put hsorted (hapart path List.mem_cons_self) properties

theorem setProperty_edit {text name : String} {value : Value}
    (h : s.setProperty text name value = .ok (s', changed)) : Edit s s' (some changed) := by
  obtain ⟨path, nodes, properties, -, hnodes, -, rfl, rfl⟩ := setProperty_ok h
  refine .change hnodes fun hsorted => ⟨?_, fun q hapart => ?_⟩
  · exact hsorted.insert path _
  · exact Workspace.subtree_insert hsorted (hapart path List.mem_cons_self) _

theorem remove_edit {text : String} {changed : Option Change}
    (h : s.remove text = .ok (s', changed)) : Edit s s' changed := by
  obtain ⟨path, nodes, -, -, hnodes, ⟨-, rfl, rfl⟩ | ⟨-, rfl, rfl⟩⟩ := remove_ok.mp h
  · exact .none
  refine .change hnodes fun hsorted => ⟨?_, fun q hapart => ?_⟩
  · exact Workspace.without_sorted hsorted _
  · exact Workspace.subtree_without hsorted (hapart path List.mem_cons_self)

theorem move_edit {a b : String} (h : s.move a b = .ok (s', changed)) :
    Edit s s' (some changed) := by
  obtain ⟨source, target, nodes, -, -, hnodes, -, -, -, rfl, rfl⟩ := move_ok.mp h
  refine .change hnodes fun hsorted => ⟨?_, fun q hapart => ?_⟩
  · exact Workspace.relocate_sorted hsorted source target
  · exact Workspace.subtree_relocate hsorted (hapart source List.mem_cons_self)
      (hapart target (List.mem_cons_of_mem _ List.mem_cons_self))

end edits

end Store

/-! ## Edits one after the other -/

/-- A change of a store by its paths: a node is put into a workspace, the default one if none is
named, or one of the default workspace is changed, removed or moved. -/
inductive StoreEdit where
  | put (workspace : Option String) (path : String) (properties : Properties)
  | setProperty (path name : String) (value : Value)
  | remove (path : String)
  | move (source target : String)

namespace StoreEdit

/-- What an edit makes of a store, and the change that it tells of. -/
def change (s : Store) : StoreEdit → Except StoreFault (Store × Option Change)
  | put workspace path properties =>
    (s.putIn (workspace.getD s.defaultWorkspace) path properties).map fun (s, c) => (s, some c)
  | setProperty path name value => (s.setProperty path name value).map fun (s, c) => (s, some c)
  | remove path => s.remove path
  | move source target => (s.move source target).map fun (s, c) => (s, some c)

/-- The store after an edit, which leaves it as it is if it is refused. -/
def after (s : Store) (e : StoreEdit) : Store :=
  match e.change s with
  | .ok (s', _) => s'
  | .error _ => s

variable {s s' : Store} {e : StoreEdit} {changed : Option Change}

theorem ok_of_map {ε : Type} {x : Except ε (Store × Change)}
    (h : x.map (fun (s, c) => (s, some c)) = .ok (s', changed)) :
    ∃ c, changed = some c ∧ x = .ok (s', c) := by
  cases x with
  | error fault => cases h
  | ok result =>
      obtain ⟨rfl, rfl⟩ := Prod.mk.inj (Except.ok.inj h)
      exact ⟨_, rfl, rfl⟩

theorem edit (h : e.change s = .ok (s', changed)) : Store.Edit s s' changed := by
  cases e with
  | put workspace path properties =>
      obtain ⟨c, rfl, hput⟩ := ok_of_map h
      exact Store.putIn_edit hput
  | setProperty path name value =>
      obtain ⟨c, rfl, hset⟩ := ok_of_map h
      exact Store.setProperty_edit hset
  | remove path => exact Store.remove_edit h
  | move source target =>
      obtain ⟨c, rfl, hmove⟩ := ok_of_map h
      exact Store.move_edit hmove

private theorem requireWorkspace_counted (s : Store) (n : Nat) (name : String) :
    ({ s with sequence := n } : Store).requireWorkspace name = s.requireWorkspace name :=
  rfl

/-- Edits do not depend on how many changes were announced. -/
theorem change_counted (s : Store) (n : Nat) (e : StoreEdit) :
    e.change { s with sequence := n } =
      (e.change s).map fun (s', c) => ({ s' with sequence := n }, c) := by
  cases e with
  | put workspace path properties =>
      simp only [change, Store.putIn, requireWorkspace_counted, bind, Except.bind]
      cases Store.readPath path with
      | error fault => rfl
      | ok path => cases s.requireWorkspace (workspace.getD s.defaultWorkspace) <;> rfl
  | setProperty path name value =>
      simp only [change, Store.setProperty, requireWorkspace_counted, bind, Except.bind]
      cases Store.readPath path with
      | error fault => rfl
      | ok path =>
          cases s.requireWorkspace s.defaultWorkspace with
          | error fault => rfl
          | ok nodes =>
              dsimp only
              cases Table.get? nodes path <;> rfl
  | remove path =>
      simp only [change, Store.remove, requireWorkspace_counted, bind, Except.bind]
      cases Store.readPath path with
      | error fault => rfl
      | ok path =>
          dsimp only
          split
          · rfl
          cases s.requireWorkspace s.defaultWorkspace with
          | error fault => rfl
          | ok nodes =>
              dsimp only
              split <;> rfl
  | move source target =>
      simp only [change, Store.move, requireWorkspace_counted, bind, Except.bind]
      cases Store.readPath source with
      | error fault => rfl
      | ok source =>
          cases Store.readPath target with
          | error fault => rfl
          | ok target =>
              dsimp only
              split
              · rfl
              cases s.requireWorkspace s.defaultWorkspace with
              | error fault => rfl
              | ok nodes =>
                  dsimp only
                  split
                  · rfl
                  split <;> rfl

/-- Stores that differ in what was announced only do so after an edit. -/
theorem after_counted (s : Store) (n : Nat) (e : StoreEdit) :
    e.after { s with sequence := n } = { e.after s with sequence := n } := by
  unfold after
  rw [e.change_counted s n]
  cases e.change s <;> rfl

end StoreEdit

end ContentEngine
