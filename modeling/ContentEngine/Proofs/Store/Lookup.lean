import ContentEngine.Proofs.Store.Workspace
import Mathlib.Data.List.Nodup

/-!
# Nodes after changes

Each change of a workspace has one equation that says which nodes there are afterwards, and with which
properties, in terms of those that there were before.  What else is known about changes follows from
these equations.
-/

namespace ContentEngine.Workspace

variable {nodes : Workspace} {path q : NodePath}

theorem get?_withAncestors (nodes : Workspace) (path q : NodePath) :
    Table.get? (nodes.withAncestors path) q =
      if path.isBelow q then some ((Table.get? nodes q).getD []) else Table.get? nodes q := by
  unfold withAncestors
  rw [Table.get?_foldl_insertNew]
  simp only [NodePath.mem_ancestors]

theorem get?_put (nodes : Workspace) (path : NodePath) (properties : Properties) (q : NodePath) :
    Table.get? (nodes.put path properties) q =
      if q = path then some properties
      else if path.isBelow q then some ((Table.get? nodes q).getD [])
      else Table.get? nodes q := by
  unfold put
  rw [Table.get?_insert, get?_withAncestors]

theorem get?_subtree (h : Table.Sorted nodes) (path q : NodePath) :
    Table.get? (nodes.subtree path) q =
      if q.isAtOrBelow path then Table.get? nodes q else none := by
  rw [subtree_eq_filter h]
  split
  · rename_i hq
    exact Table.get?_filter nodes (p := fun q => q.isAtOrBelow path) hq
  · rename_i hq
    exact Table.get?_filter_of_not nodes (p := fun q => q.isAtOrBelow path) (by simpa using hq)

theorem get?_without_subtree (h : Table.Sorted nodes) (path q : NodePath) :
    Table.get? (nodes.without (nodes.subtree path)) q =
      if q.isAtOrBelow path then none else Table.get? nodes q := by
  unfold without
  rw [Table.get?_foldl_erase, Table.contains, get?_subtree h]
  cases q.isAtOrBelow path with
  | false => rfl
  | true => cases Table.get? nodes q <;> rfl

/-! ## Moving -/

section relocate

variable {source target : NodePath}

/-- Nodes at or below a path are found at or below another one after their paths were rebased. -/
private theorem get?_rebased {items : Workspace}
    (h : ∀ entry ∈ items, entry.1.isAtOrBelow source = true) (q : NodePath) :
    Table.get? (items.map fun entry => (entry.1.rebase source target, entry.2)) q =
      if q.isAtOrBelow target then Table.get? items (q.rebase target source) else none := by
  induction items with
  | nil => simp [Table.get?]
  | cons first rest ih =>
      obtain ⟨hfirst, hrest⟩ := List.forall_mem_cons.mp h
      have hthere : first.1.rebase source target = q ↔
          q.isAtOrBelow target = true ∧ first.1 = q.rebase target source := by
        constructor
        · rintro rfl
          exact ⟨NodePath.isAtOrBelow_rebase .., (NodePath.rebase_rebase hfirst target).symm⟩
        · rintro ⟨hq, heq⟩
          rw [heq, NodePath.rebase_rebase hq]
      rw [List.map_cons, Table.get?_cons, Table.get?_cons, ih hrest]
      by_cases hq : q.isAtOrBelow target = true <;> simp [hthere, hq]

private theorem nodup_rebased {items : Workspace} (hsorted : Table.Sorted items)
    (h : ∀ entry ∈ items, entry.1.isAtOrBelow source = true) (target : NodePath) :
    ((items.map fun entry => (entry.1.rebase source target, entry.2)).map Prod.fst).Nodup := by
  rw [List.map_map]
  refine List.Nodup.of_map (f := fun p : NodePath => p.rebase target source) ?_
  rw [List.map_map]
  have hback : items.map ((fun p : NodePath => p.rebase target source) ∘ Prod.fst ∘
      fun entry => (entry.1.rebase source target, entry.2)) = items.map Prod.fst :=
    List.map_congr_left fun entry hentry => NodePath.rebase_rebase (h entry hentry) target
  exact hback ▸ hsorted.nodup_keys

/-- After a subtree was moved to a path where nothing was, what was at or below its path is at or below
the new one, the nodes above that are there, and all others are as before. -/
theorem get?_relocate (h : Table.Sorted nodes) (hapart : target.isAtOrBelow source = false)
    (hfree : ∀ q, q.isAtOrBelow target = true → Table.get? nodes q = none) (q : NodePath) :
    Table.get? (nodes.relocate source target) q =
      if q.isAtOrBelow target then Table.get? nodes (q.rebase target source)
      else if q.isAtOrBelow source then none
      else if target.isBelow q then some ((Table.get? nodes q).getD [])
      else Table.get? nodes q := by
  have hbelow : ∀ entry ∈ nodes.subtree source, entry.1.isAtOrBelow source = true :=
    fun entry hentry => isAtOrBelow_of_mem_subtree hentry
  have hfold := Table.get?_foldl_insert (nodup_rebased (subtree_sorted h source) hbelow target)
    ((nodes.without (nodes.subtree source)).withAncestors target) q
  rw [List.foldl_map, get?_rebased hbelow, get?_subtree h,
    if_pos (NodePath.isAtOrBelow_rebase q target source), get?_withAncestors,
    get?_without_subtree h] at hfold
  unfold relocate
  dsimp only
  rw [hfold]
  cases hq : q.isAtOrBelow target with
  | true =>
      have hnot : ¬target.isBelow q = true := fun hbelow => by
        obtain ⟨habove, hne⟩ := NodePath.isBelow_iff.mp hbelow
        exact hne (NodePath.isAtOrBelow_antisymm habove hq)
      simp [hnot, hfree q hq]
  | false =>
      cases hsource : q.isAtOrBelow source with
      | false => rfl
      | true =>
          have hnot : ¬target.isBelow q = true := fun hbelow => by
            have habove := (NodePath.isBelow_iff.mp hbelow).1
            exact Bool.false_ne_true
              (hapart.symm.trans (NodePath.isAtOrBelow_trans habove hsource))
          simp [hnot]

end relocate

end ContentEngine.Workspace
