import ContentEngine.Proofs.Store.Trees

/-!
# Removing and moving subtrees

Removing a node takes exactly its subtree out, and moving one puts exactly its subtree elsewhere.  Both
find the subtree by scanning the nodes in order, and both rely on workspaces being trees: below a path
without a node there is none that a moved one could meet.
-/

namespace ContentEngine.Store

variable {s s' : Store}

/-- A node of the default workspace was removed: nothing is left at or below its path, and everything
else is as it was. -/
structure Removed (s s' : Store) (path : NodePath) : Prop where
  gone : ∀ q, q.isAtOrBelow path = true → s'.lookup? s.defaultWorkspace q = none
  kept : ∀ q, q.isAtOrBelow path = false →
    s'.lookup? s.defaultWorkspace q = s.lookup? s.defaultWorkspace q
  others : ∀ name, name ≠ s.defaultWorkspace → s'.workspace? name = s.workspace? name

/-- A node of the default workspace was moved with all below it. -/
structure Moved (s s' : Store) (source target : NodePath) : Prop where
  /-- Nothing was in the way. -/
  free : ∀ q, q.isAtOrBelow target = true → s.lookup? s.defaultWorkspace q = none
  carried : ∀ suffix hvalid, s'.lookup? s.defaultWorkspace (target.append suffix hvalid) =
    s.lookup? s.defaultWorkspace (source.append suffix hvalid)
  /-- The text that is put together for a node that is moved is read as its new path. -/
  reread : ∀ suffix hvalid, NodePath.parse ("/" ++ Text.joined "/" (target.segments ++
    (source.append suffix hvalid).segments.drop source.depth)) = .ok (target.append suffix hvalid)
  gone : ∀ q, q.isAtOrBelow source = true → s'.lookup? s.defaultWorkspace q = none
  created : ∀ q, target.isBelow q = true → s.lookup? s.defaultWorkspace q = none →
    s'.lookup? s.defaultWorkspace q = some []
  kept : ∀ q, q.isAtOrBelow source = false → q.isAtOrBelow target = false →
    (target.isBelow q = true → s.lookup? s.defaultWorkspace q ≠ none) →
    s'.lookup? s.defaultWorkspace q = s.lookup? s.defaultWorkspace q
  others : ∀ name, name ≠ s.defaultWorkspace → s'.workspace? name = s.workspace? name

theorem Sound.remove (h : s.Sound) {text : String} {path : NodePath}
    (hpath : NodePath.parse text = .ok path) (hroot : path ≠ .root) :
    ∃ s' changed, s.remove text = .ok (s', changed) ∧
      (changed.isSome = true ↔ s.lookup? s.defaultWorkspace path ≠ none) ∧ s.Removed s' path := by
  obtain ⟨nodes, hnodes⟩ := Option.isSome_iff_exists.mp h.default
  have htree := h.trees _ _ hnodes
  have hlookup := lookup?_of_workspace? hnodes
  have hnot : path.isRoot = false :=
    Bool.eq_false_iff.mpr fun hempty => hroot (NodePath.ext (List.isEmpty_iff.mp hempty))
  by_cases hempty : nodes.subtree path = []
  · refine ⟨s, none, remove_ok.mpr ⟨path, nodes, hpath, hnot, hnodes, .inl ⟨hempty, rfl, rfl⟩⟩, ?_, ?_⟩
    · have hnone := (htree.subtree_eq_nil path).mp hempty
      simp [hlookup, hnone]
    · refine ⟨fun q hq => ?_, fun _ _ => rfl, fun _ _ => rfl⟩
      have hfound := Workspace.get?_subtree htree.sorted path q
      rw [hempty, hq, if_pos rfl] at hfound
      rw [hlookup, ← hfound]
      rfl
  · refine ⟨_, _, remove_ok.mpr ⟨path, nodes, hpath, hnot, hnodes, .inr ⟨hempty, rfl, rfl⟩⟩, ?_, ?_⟩
    · rw [hlookup, Option.isSome_some]
      exact iff_of_true rfl fun hnone => hempty ((htree.subtree_eq_nil path).mpr hnone)
    · refine ⟨fun q hq => ?_, fun q hq => ?_, fun name hname => ?_⟩
      · rw [lookup?_setWorkspace, Workspace.get?_without_subtree htree.sorted, hq, if_pos rfl]
      · rw [lookup?_setWorkspace, Workspace.get?_without_subtree htree.sorted, hq,
          if_neg Bool.false_ne_true, hlookup]
      · rw [workspace?_setWorkspace, if_neg hname]

theorem Sound.move_ok_iff (h : s.Sound) (a b : String) :
    (∃ s' change, s.move a b = .ok (s', change)) ↔
      a.toList.head? = some '/' ∧ b.toList.head? = some '/' ∧
        ∀ source target, NodePath.parse a = .ok source → NodePath.parse b = .ok target →
          target.isAtOrBelow source = false ∧ s.lookup? s.defaultWorkspace source ≠ none ∧
            s.lookup? s.defaultWorkspace target = none := by
  obtain ⟨nodes, hnodes⟩ := Option.isSome_iff_exists.mp h.default
  have hlookup := lookup?_of_workspace? hnodes
  simp only [move_ok, ← NodePath.parse_ok_iff, hlookup]
  constructor
  · rintro ⟨s', change, source, target, nodes', ha, hb, hnodes', hapart, hsource, hfree, -, -⟩
    obtain rfl := Option.some.inj (hnodes.symm.trans hnodes')
    refine ⟨⟨source, ha⟩, ⟨target, hb⟩, fun source' target' ha' hb' => ?_⟩
    obtain rfl := Except.ok.inj (ha.symm.trans ha')
    obtain rfl := Except.ok.inj (hb.symm.trans hb')
    exact ⟨hapart, Option.isSome_iff_ne_none.mp hsource,
      Option.isNone_iff_eq_none.mp (Option.isSome_eq_false_iff.mp hfree)⟩
  · rintro ⟨⟨source, ha⟩, ⟨target, hb⟩, hcond⟩
    obtain ⟨hapart, hsource, hfree⟩ := hcond source target ha hb
    exact ⟨_, _, source, target, nodes, ha, hb, hnodes, hapart, Option.isSome_iff_ne_none.mpr hsource,
      by simp [Table.contains, hfree], rfl, rfl⟩

theorem Sound.move (h : s.Sound) {a b : String} {source target : NodePath} {change : Change}
    (ha : NodePath.parse a = .ok source) (hb : NodePath.parse b = .ok target)
    (hmove : s.move a b = .ok (s', change)) : s.Moved s' source target := by
  obtain ⟨source', target', nodes, ha', hb', hnodes, hapart, hsource, hfree, rfl, -⟩ :=
    move_ok.mp hmove
  obtain rfl := Except.ok.inj (ha.symm.trans ha')
  obtain rfl := Except.ok.inj (hb.symm.trans hb')
  have htree := h.trees _ _ hnodes
  have hlookup := lookup?_of_workspace? hnodes
  have hbelow := htree.get?_below_free hfree
  -- the source is not below the target, since then the target would exist
  have hapart' : source.isAtOrBelow target = false := Bool.eq_false_iff.mpr fun hle => by
    rw [htree.above source target hsource hle] at hfree
    cases hfree
  have hget := Workspace.get?_relocate htree.sorted hapart hbelow
  refine {
    free := fun q hq => (hlookup q).trans (hbelow q hq)
    carried := fun suffix hvalid => ?_
    reread := fun suffix hvalid => ?_
    gone := fun q hq => ?_
    created := fun q hq hnone => ?_
    kept := fun q hs ht hthere => ?_
    others := fun name hname => ?_ }
  · rw [lookup?_setWorkspace, hget, NodePath.isAtOrBelow_append, if_pos rfl, NodePath.rebase_append,
      hlookup]
  · have hsegments := ((source.append suffix hvalid).rebase source target).valid
    exact (NodePath.parse_joined _ hsegments).trans
      (congrArg Except.ok (NodePath.rebase_append source target suffix hvalid))
  · have hnot : q.isAtOrBelow target = false := NodePath.Apart.below ⟨hapart', hapart⟩ hq
    rw [lookup?_setWorkspace, hget, hnot, if_neg Bool.false_ne_true, hq, if_pos rfl]
  · obtain ⟨habove, hne⟩ := NodePath.isBelow_iff.mp hq
    have hnot : q.isAtOrBelow target = false := Bool.eq_false_iff.mpr fun hle =>
      hne (NodePath.isAtOrBelow_antisymm habove hle)
    rw [hlookup] at hnone
    rw [lookup?_setWorkspace, hget, hnot, if_neg Bool.false_ne_true,
      NodePath.not_isAtOrBelow_above hapart habove, if_neg Bool.false_ne_true, hq, if_pos rfl, hnone,
      Option.getD_none]
  · rw [lookup?_setWorkspace, hget, ht, if_neg Bool.false_ne_true, hs, if_neg Bool.false_ne_true,
      hlookup]
    split
    · rename_i habove
      obtain ⟨properties, hproperties⟩ := Option.ne_none_iff_exists'.mp (hlookup q ▸ hthere habove)
      rw [hproperties, Option.getD_some]
    · rfl
  · rw [workspace?_setWorkspace, if_neg hname]

/-- In a store that came about by calls, removing a node below the root always succeeds, tells whether it
was there, and takes exactly its subtree out.  Moving one succeeds if and only if both texts are absolute,
the target is not at or below the source, the source is there and the target is not, and then it carries
exactly its subtree over. -/
theorem subtrees_removed_and_moved (h : s.Reached) :
    (∀ text path, NodePath.parse text = .ok path → path ≠ .root →
      ∃ s' changed, s.remove text = .ok (s', changed) ∧
        (changed.isSome = true ↔ s.lookup? s.defaultWorkspace path ≠ none) ∧ s.Removed s' path) ∧
    (∀ a b, (∃ s' change, s.move a b = .ok (s', change)) ↔
      a.toList.head? = some '/' ∧ b.toList.head? = some '/' ∧
        ∀ source target, NodePath.parse a = .ok source → NodePath.parse b = .ok target →
          target.isAtOrBelow source = false ∧ s.lookup? s.defaultWorkspace source ≠ none ∧
            s.lookup? s.defaultWorkspace target = none) ∧
    ∀ a b source target s' change, NodePath.parse a = .ok source → NodePath.parse b = .ok target →
      s.move a b = .ok (s', change) → s.Moved s' source target :=
  ⟨fun _ _ hpath hroot => h.sound.remove hpath hroot, fun a b => h.sound.move_ok_iff a b,
    fun _ _ _ _ _ _ ha hb hmove => h.sound.move ha hb hmove⟩

/-- A node is moved with one below it to a path without a parent. -/
theorem subtrees_removed_and_moved_page :
    let s := (StoreCall.edit (.put none "/a/page" [("title", .text "kept")]) (.ofMillis 0)).after .new
    ∃ s' change, s.move "/a" "/x/y" = .ok (s', change) ∧
      s'.lookup? "default" (.ofPieces "/x/y/page".toList) = some [("title", .text "kept")] ∧
      s'.lookup? "default" (.ofPieces "/x".toList) = some [] ∧
      s'.lookup? "default" (.ofPieces "/a".toList) = none := by
  intro s
  have hreached : s.Reached :=
    ⟨.new, .new, [.edit (.put none "/a/page" [("title", .text "kept")]) (.ofMillis 0)], rfl⟩
  obtain ⟨-, hsucceeds, hmoved⟩ := subtrees_removed_and_moved hreached
  have ha : NodePath.parse "/a" = .ok (.ofPieces "/a".toList) := rfl
  have hb : NodePath.parse "/x/y" = .ok (.ofPieces "/x/y".toList) := rfl
  obtain ⟨s', change, hmove⟩ := (hsucceeds "/a" "/x/y").mpr
    ⟨rfl, rfl, fun source target hsource htarget => by
      obtain rfl := Except.ok.inj (ha.symm.trans hsource)
      obtain rfl := Except.ok.inj (hb.symm.trans htarget)
      exact ⟨by decide, by decide +kernel, by decide +kernel⟩⟩
  have h := hmoved _ _ _ _ _ _ ha hb hmove
  refine ⟨s', change, hmove, ?_, h.created _ (by decide) (by decide +kernel), h.gone _ (by decide)⟩
  exact h.carried ["page"] (by decide)

end ContentEngine.Store
