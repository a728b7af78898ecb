import ContentEngine.Proofs.Store.Edits
import ContentEngine.Proofs.Store.Lookup

/-!
# Workspaces are trees

A workspace has its root and, with each node, the node's parent.  No change mentions that: a node is put
after the nodes above it, a subtree is taken out as a whole, and what is moved arrives below nodes that
were put there first.

## Strategy

`IsTree` says of a workspace that it is in order and closed upwards.  Each change keeps it, by the
equation that says which nodes there are afterwards; so what is asked of a store keeps all its workspaces
trees, and by induction they are trees in every store that came about.
-/

namespace ContentEngine

namespace Workspace

/-- A workspace in order that has its root and, with each node, all nodes above it. -/
structure IsTree (nodes : Workspace) : Prop where
  sorted : Table.Sorted nodes
  root : Table.contains nodes .root = true
  above : ∀ p q, Table.contains nodes p = true → p.isAtOrBelow q = true →
    Table.contains nodes q = true

variable {nodes : Workspace} {path : NodePath}

/-- The nodes after one was put: those above it and those that were there. -/
theorem contains_put (nodes : Workspace) (path : NodePath) (properties : Properties) (q : NodePath) :
    Table.contains (nodes.put path properties) q = (path.isAtOrBelow q || Table.contains nodes q) := by
  unfold Table.contains
  rw [get?_put]
  by_cases heq : q = path
  · rw [if_pos heq, heq, NodePath.isAtOrBelow_self, Bool.true_or, Option.isSome_some]
  · rw [if_neg heq]
    by_cases hbelow : path.isAtOrBelow q = true
    · rw [if_pos (NodePath.isBelow_iff.mpr ⟨hbelow, Ne.symm heq⟩), hbelow, Bool.true_or,
        Option.isSome_some]
    · rw [if_neg fun h => hbelow (NodePath.isBelow_iff.mp h).1, Bool.eq_false_iff.mpr hbelow,
        Bool.false_or]

theorem contains_without_subtree (h : Table.Sorted nodes) (path q : NodePath) :
    Table.contains (nodes.without (nodes.subtree path)) q =
      (!q.isAtOrBelow path && Table.contains nodes q) := by
  unfold Table.contains
  rw [get?_without_subtree h]
  cases q.isAtOrBelow path <;> rfl

theorem contains_relocate {source target : NodePath} (h : Table.Sorted nodes)
    (hapart : target.isAtOrBelow source = false)
    (hfree : ∀ q, q.isAtOrBelow target = true → Table.get? nodes q = none) (q : NodePath) :
    Table.contains (nodes.relocate source target) q =
      if q.isAtOrBelow target then Table.contains nodes (q.rebase target source)
      else !q.isAtOrBelow source && (target.isAtOrBelow q || Table.contains nodes q) := by
  unfold Table.contains
  rw [get?_relocate h hapart hfree]
  cases hq : q.isAtOrBelow target with
  | true => rfl
  | false =>
      rw [NodePath.isBelow_of_not_isAtOrBelow hq]
      cases q.isAtOrBelow source <;> cases target.isAtOrBelow q <;> rfl

namespace IsTree

theorem fresh : IsTree .fresh where
  sorted := List.pairwise_singleton ..
  root := rfl
  above p q hp hpq := by
    have hroot : p = .root := by
      have hmem := Table.mem_of_get? (Option.some_get hp).symm
      exact (Prod.mk.inj (List.mem_singleton.mp hmem)).1
    subst hroot
    have hq : NodePath.root = q := NodePath.isAtOrBelow_antisymm hpq (NodePath.isAtOrBelow_root q)
    exact hq ▸ rfl

variable (h : IsTree nodes)
include h

theorem put (path : NodePath) (properties : Properties) : IsTree (nodes.put path properties) where
  sorted := put_sorted h.sorted path properties
  root := by rw [contains_put, h.root, Bool.or_true]
  above p q hp hpq := by
    rw [contains_put, Bool.or_eq_true] at hp ⊢
    exact hp.imp (fun hpath => NodePath.isAtOrBelow_trans hpath hpq) fun hp => h.above p q hp hpq

/-- Replacing a node changes no path. -/
theorem insert (hpath : Table.contains nodes path = true) (properties : Properties) :
    IsTree (Table.insert path properties nodes) := by
  have hsame : ∀ q, Table.contains (Table.insert path properties nodes) q = Table.contains nodes q := by
    intro q
    unfold Table.contains at hpath ⊢
    rw [Table.get?_insert]
    split
    · rename_i heq
      rw [heq, hpath, Option.isSome_some]
    · rfl
  refine ⟨h.sorted.insert path properties, (hsame _).trans h.root, fun p q hp hpq => ?_⟩
  rw [hsame] at hp ⊢
  exact h.above p q hp hpq

theorem without_subtree (hpath : path.isRoot = false) :
    IsTree (nodes.without (nodes.subtree path)) := by
  have hcontains := contains_without_subtree h.sorted path
  refine ⟨without_sorted h.sorted _, ?_, fun p q hp hpq => ?_⟩
  · rw [hcontains, h.root, Bool.and_true, Bool.not_eq_true']
    refine Bool.eq_false_iff.mpr fun hroot => ?_
    obtain rfl := NodePath.isAtOrBelow_antisymm hroot (NodePath.isAtOrBelow_root path)
    cases hpath
  · rw [hcontains, Bool.and_eq_true, Bool.not_eq_true'] at hp ⊢
    exact ⟨NodePath.not_isAtOrBelow_above hp.1 hpq, h.above p q hp.2 hpq⟩

/-- Where there is no node, there is none below. -/
theorem get?_below_free {target : NodePath} (hfree : Table.contains nodes target = false) (q : NodePath)
    (hq : q.isAtOrBelow target = true) : Table.get? nodes q = none := by
  refine Option.not_isSome_iff_eq_none.mp fun hsome => ?_
  exact Bool.false_ne_true (hfree.symm.trans (h.above q target hsome hq))

/-- The subtree at a path is empty if and only if there is no node at the path. -/
theorem subtree_eq_nil (path : NodePath) :
    nodes.subtree path = [] ↔ Table.get? nodes path = none := by
  have hget := get?_subtree h.sorted path
  constructor
  · intro hempty
    have hpath := hget path
    rw [NodePath.isAtOrBelow_self, if_pos rfl, hempty] at hpath
    exact hpath.symm
  · intro hnone
    refine List.eq_nil_iff_forall_not_mem.mpr fun entry hentry => ?_
    rw [subtree_eq_filter h.sorted] at hentry
    obtain ⟨hmem, hbelow⟩ := List.mem_filter.mp hentry
    have hfree : Table.contains nodes path = false := by rw [Table.contains, hnone, Option.isSome_none]
    have hfound := h.get?_below_free hfree entry.1 hbelow
    rw [h.sorted.get?_of_mem hmem] at hfound
    cases hfound

theorem relocate {source target : NodePath} (hapart : target.isAtOrBelow source = false)
    (hsource : Table.contains nodes source = true) (hfree : Table.contains nodes target = false) :
    IsTree (nodes.relocate source target) := by
  have hcontains := contains_relocate h.sorted hapart (h.get?_below_free hfree)
  have habove : ∀ q, target.isAtOrBelow q = true →
      Table.contains (nodes.relocate source target) q = true := by
    intro q hq
    rw [hcontains, NodePath.not_isAtOrBelow_above hapart hq, hq]
    split
    · rename_i hbelow
      obtain rfl := NodePath.isAtOrBelow_antisymm hbelow hq
      rwa [NodePath.rebase_self]
    · rfl
  refine ⟨relocate_sorted h.sorted source target, habove _ (NodePath.isAtOrBelow_root _),
    fun p q hp hpq => ?_⟩
  by_cases htarget : target.isAtOrBelow q = true
  · exact habove q htarget
  rw [hcontains] at hp ⊢
  cases hpt : p.isAtOrBelow target with
  | true =>
      -- what is above a node that arrived, but not above the target, arrived as well
      have hqt := (NodePath.isAtOrBelow_total hpq hpt).resolve_right htarget
      rw [hpt, if_pos rfl] at hp
      rw [hqt, if_pos rfl]
      exact h.above _ _ hp (NodePath.isAtOrBelow_rebase_rebase hqt hpq)
  | false =>
      rw [hpt, if_neg Bool.false_ne_true, Bool.and_eq_true, Bool.not_eq_true', Bool.or_eq_true] at hp
      have hstayed := hp.2.resolve_left fun hbelow => htarget (NodePath.isAtOrBelow_trans hbelow hpq)
      rw [NodePath.not_isAtOrBelow_above hpt hpq, if_neg Bool.false_ne_true,
        NodePath.not_isAtOrBelow_above hp.1 hpq, h.above p q hstayed hpq, Bool.or_true]
      rfl

end IsTree

end Workspace

/-! ## Stores that came about -/

/-- What can be asked of a store. -/
inductive StoreCall where
  | createWorkspace (name : String)
  | edit (e : StoreEdit) (time : Timestamp)
  | bind (b : Binding)
  | setUnavailable (unavailable : Bool)

/-- The store after a call.  An edit that changes it is announced, and one that is refused leaves it as it
is. -/
def StoreCall.after (s : Store) : StoreCall → Store
  | createWorkspace name => s.createWorkspace name
  | edit e time =>
    match e.change s with
    | .ok (s', some change) => (s'.announce time change).1
    | .ok (s', none) => s'
    | .error _ => s
  | bind b => { s with binding := some b }
  | setUnavailable unavailable => { s with unavailable := unavailable }

namespace Store

/-- A store that was made and nothing asked of it yet. -/
inductive Made : Store → Prop
  | new : Made .new
  | withDefaultWorkspace (name : String) : Made (.withWorkspaces name [])
  | ofDescriptor (d : SourceDescriptor) : Made (.ofDescriptor d)

/-- A store that came about by calls. -/
def Reached (s : Store) : Prop :=
  ∃ made, Made made ∧ ∃ calls : List StoreCall, s = calls.foldl StoreCall.after made

/-- All workspaces are trees, and there is the default one. -/
structure Sound (s : Store) : Prop where
  trees : ∀ name nodes, s.workspace? name = some nodes → Workspace.IsTree nodes
  default : (s.workspace? s.defaultWorkspace).isSome

variable {s s' : Store}

theorem workspace?_createWorkspace (s : Store) (name other : String) :
    (s.createWorkspace name).workspace? other =
      if other = name then some ((s.workspace? name).getD .fresh) else s.workspace? other :=
  Table.get?_insertNew ..

/-- Announcing a change counts it. -/
theorem announce_counted (s : Store) (time : Timestamp) (change : Change) :
    ∃ n, (s.announce time change).1 = { s with sequence := n } := by
  unfold announce
  split
  · exact ⟨s.sequence, rfl⟩
  · exact ⟨s.sequence + 1, rfl⟩

namespace Sound

/-- A change of what is not in the workspaces. -/
theorem of_eq (h : s.Sound) (hdefault : s'.defaultWorkspace = s.defaultWorkspace)
    (hworkspaces : s'.workspaces = s.workspaces) : s'.Sound := by
  have hsame : ∀ name, s'.workspace? name = s.workspace? name := fun name => by
    rw [workspace?, hworkspaces, workspace?]
  refine ⟨fun name nodes hnodes => h.trees name nodes (hsame name ▸ hnodes), ?_⟩
  rw [hsame, hdefault]
  exact h.default

theorem setWorkspace (h : s.Sound) (name : String) {nodes : Workspace} (hnodes : nodes.IsTree) :
    (s.setWorkspace name nodes).Sound := by
  refine ⟨fun other nodes' hother => ?_, ?_⟩
  · rw [workspace?_setWorkspace] at hother
    split at hother
    · exact Option.some.inj hother ▸ hnodes
    · exact h.trees other nodes' hother
  · rw [workspace?_setWorkspace]
    split
    · rfl
    · exact h.default

theorem createWorkspace (h : s.Sound) (name : String) : (s.createWorkspace name).Sound := by
  refine ⟨fun other nodes hother => ?_, ?_⟩
  · rw [workspace?_createWorkspace] at hother
    split at hother
    · obtain rfl := Option.some.inj hother
      cases hname : s.workspace? name with
      | none => exact .fresh
      | some nodes => exact h.trees name nodes hname
    · exact h.trees other nodes hother
  · rw [workspace?_createWorkspace]
    split
    · rfl
    · exact h.default

theorem withWorkspaces (defaultWorkspace : String) (more : List String) :
    (Store.withWorkspaces defaultWorkspace more).Sound := by
  -- the further workspaces are created one after the other
  have hcreated : ∀ s : Store, Store.Sound s → Store.Sound { s with
      workspaces := more.foldl (fun table name => Table.insertNew name .fresh table) s.workspaces } := by
    induction more with
    | nil => exact fun _ h => h
    | cons name rest ih => exact fun _ h => ih _ (h.createWorkspace name)
  refine hcreated ⟨defaultWorkspace, [(defaultWorkspace, .fresh)], none, 0, false⟩ ⟨?_, ?_⟩
  · intro name nodes hnodes
    have hmem := Table.mem_of_get? hnodes
    rw [(Prod.mk.inj (List.mem_singleton.mp hmem)).2]
    exact .fresh
  · exact congrArg Option.isSome (if_pos rfl)

theorem change (h : s.Sound) {e : StoreEdit} {changed : Option Change}
    (hchange : e.change s = .ok (s', changed)) : s'.Sound := by
  cases e with
  | put workspace path properties =>
      obtain ⟨c, -, hput⟩ := StoreEdit.ok_of_map hchange
      obtain ⟨path, nodes, -, hnodes, rfl, -⟩ := putIn_ok hput
      exact h.setWorkspace _ ((h.trees _ _ hnodes).put path properties)
  | setProperty path name value =>
      obtain ⟨c, -, hset⟩ := StoreEdit.ok_of_map hchange
      obtain ⟨path, nodes, properties, -, hnodes, hproperties, rfl, -⟩ := setProperty_ok hset
      exact h.setWorkspace _ ((h.trees _ _ hnodes).insert (Option.isSome_of_eq_some hproperties) _)
  | remove path =>
      obtain ⟨path, nodes, -, hroot, hnodes, ⟨-, rfl, -⟩ | ⟨-, rfl, -⟩⟩ := remove_ok.mp hchange
      · exact h
      · exact h.setWorkspace _ ((h.trees _ _ hnodes).without_subtree hroot)
  | move source target =>
      obtain ⟨c, -, hmove⟩ := StoreEdit.ok_of_map hchange
      obtain ⟨source, target, nodes, -, -, hnodes, hapart, hsource, hfree, rfl, -⟩ := move_ok.mp hmove
      exact h.setWorkspace _ ((h.trees _ _ hnodes).relocate hapart hsource hfree)

theorem call (h : s.Sound) (c : StoreCall) : (c.after s).Sound := by
  cases c with
  | createWorkspace name => exact h.createWorkspace name
  | bind b => exact h.of_eq rfl rfl
  | setUnavailable unavailable => exact h.of_eq rfl rfl
  | edit e time =>
      unfold StoreCall.after
      dsimp only
      split
      · rename_i s' c hchange
        obtain ⟨n, hcounted⟩ := s'.announce_counted time c
        rw [hcounted]
        exact (h.change hchange).of_eq rfl rfl
      · rename_i s' hchange
        exact h.change hchange
      · exact h

end Sound

theorem Made.sound (h : s.Made) : s.Sound := by
  cases h <;> exact .withWorkspaces ..

theorem Made.sound_calls (h : s.Made) (calls : List StoreCall) :
    (calls.foldl StoreCall.after s).Sound :=
  List.foldlRecOn calls _ h.sound fun _ h c _ => h.call c

theorem Reached.sound (h : s.Reached) : s.Sound := by
  obtain ⟨made, hmade, calls, rfl⟩ := h
  exact hmade.sound_calls calls

theorem Sound.ordered (h : s.Sound) : s.Ordered :=
  fun name nodes hnodes => (h.trees name nodes hnodes).sorted

/-- Whatever was asked of a store since it was made, each of its workspaces has the root and, with each
node, the node's parent. -/
theorem workspaces_are_trees {made : Store} (h : made.Made) (calls : List StoreCall) {name : String}
    {nodes : Workspace} (hnodes : (calls.foldl StoreCall.after made).workspace? name = some nodes) :
    Table.contains nodes .root = true ∧
      ∀ p parent, Table.contains nodes p = true → p.parent? = some parent →
        Table.contains nodes parent = true := by
  have htree := (h.sound_calls calls).trees name nodes hnodes
  refine ⟨htree.root, fun p parent hp hparent => ?_⟩
  exact htree.above p parent hp (NodePath.isAtOrBelow_of_parent? hparent)

/-- A node is put and moved below nodes that there were not, and another move is refused. -/
theorem workspaces_are_trees_moved :
    let calls : List StoreCall := [.edit (.put none "/a/b" []) (.ofMillis 0),
      .edit (.move "/a" "/x/y") (.ofMillis 1), .edit (.move "/x" "/x/z") (.ofMillis 2)]
    ∃ nodes, (calls.foldl StoreCall.after .new).workspace? "default" = some nodes ∧
      Table.contains nodes (.ofPieces "/x/y/b".toList) = true ∧
      Table.contains nodes (.ofPieces "/x/y".toList) = true := by
  intro calls
  have hnodes : (calls.foldl StoreCall.after .new).workspace? "default" = some _ := rfl
  refine ⟨_, hnodes, by decide +kernel, ?_⟩
  exact (workspaces_are_trees .new calls hnodes).2 (.ofPieces "/x/y/b".toList) _ (by decide +kernel)
    (by decide +kernel)

end Store

end ContentEngine
