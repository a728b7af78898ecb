import ContentEngine.Proofs.Run.Tracking
import ContentEngine.Proofs.Store.Trees

/-!
# Events cover every change

The event about an edit names one path or two, but an edit can create the nodes above a path, and remove
or move all nodes below one.  Whatever it changes is at, above or below a path of the event, so the event
touches it, and with it all paths above.

## Strategy

An edit leaves every subtree alone whose path is apart from the paths of the event.  So a path where
something changed is not apart from one of them, which is what touching means.
-/

namespace ContentEngine

namespace Store.Edit

variable {s s' : Store} {changed : Option Change}

/-- Where the nodes differ after an edit there is a change of that workspace, with a path that is not
apart. -/
theorem of_differs (h : Edit s s' changed) (hordered : s.Ordered) {name : String} {q : NodePath}
    (hdiffers : s'.lookup? name q ≠ s.lookup? name q) :
    ∃ c, changed = some c ∧ c.workspace = name ∧ ∃ p ∈ c.paths, ¬NodePath.Apart p q := by
  cases h with
  | none => exact absurd rfl hdiffers
  | @change edited kind paths nodes nodes' hnodes hedit =>
      have hname : edited = name := Decidable.byContradiction fun hne => hdiffers (by
        rw [lookup?, workspace?_setWorkspace, if_neg (Ne.symm hne), lookup?])
      subst hname
      refine ⟨_, rfl, rfl, Classical.byContradiction fun hall => hdiffers ?_⟩
      have hapart : ∀ p ∈ paths, NodePath.Apart p q := fun p hp =>
        Classical.byContradiction fun hnot => hall ⟨p, hp, hnot⟩
      have hsorted := hordered _ _ hnodes
      obtain ⟨hsorted', hsame⟩ := hedit hsorted
      -- a node is part of the subtree at its path
      have hself := Workspace.get?_subtree hsorted q q
      have hself' := Workspace.get?_subtree hsorted' q q
      rw [NodePath.isAtOrBelow_self, if_pos rfl] at hself hself'
      rw [lookup?_setWorkspace, lookup?_of_workspace? hnodes, ← hself, ← hself', hsame q hapart]

theorem others (h : Edit s s' changed) {name : String}
    (hname : ∀ c, changed = some c → c.workspace ≠ name) : s'.workspace? name = s.workspace? name := by
  cases h with
  | none => rfl
  | change hnodes hedit =>
      rw [workspace?_setWorkspace, if_neg (Ne.symm (hname _ rfl))]

end Store.Edit

namespace StoreEdit

/-- The workspace that an edit is about. -/
def workspace (s : Store) : StoreEdit → String
  | put workspace _ _ => workspace.getD s.defaultWorkspace
  | _ => s.defaultWorkspace

theorem change_workspace {s s' : Store} {e : StoreEdit} {c : Change}
    (h : e.change s = .ok (s', some c)) : c.workspace = e.workspace s := by
  cases e with
  | put workspace path properties =>
      obtain ⟨_, hc, hput⟩ := ok_of_map h
      obtain rfl := Option.some.inj hc
      obtain ⟨_, _, -, -, -, hworkspace, -⟩ := Store.putIn_ok hput
      exact hworkspace
  | setProperty path name value =>
      obtain ⟨_, hc, hset⟩ := ok_of_map h
      obtain rfl := Option.some.inj hc
      obtain ⟨_, _, _, -, -, -, -, rfl⟩ := Store.setProperty_ok hset
      rfl
  | remove path =>
      obtain ⟨_, _, -, -, -, ⟨-, -, hc⟩ | ⟨-, -, hc⟩⟩ := Store.remove_ok.mp h
      · cases hc
      · obtain rfl := Option.some.inj hc
        rfl
  | move source target =>
      obtain ⟨_, hc, hmove⟩ := ok_of_map h
      obtain rfl := Option.some.inj hc
      obtain ⟨_, _, _, -, -, -, -, -, -, -, rfl⟩ := Store.move_ok.mp hmove
      rfl

end StoreEdit

/-! ## Publishing -/

/-- Tells an observer of an event; the changes that it makes are announced `depth` levels deep. -/
def notifyNested (depth : Nat) : Notify :=
  notifyWith fun id path properties =>
    changeStore depth id fun s => (s.put path properties).map fun (s, change) => ((), s, some change)

/-- An event that is published is told with room for the changes of all observers. -/
theorem publish_run (bus : BusId) (event : ChangeEvent) (s : System) :
    (publish bus event).run s = (publishWith (notifyNested s.eventDepth) bus event).run s := by
  unfold publish
  rw [fromSystem_bind]
  rfl

/-- The event about a change of a store that serves a source. -/
def Change.event (c : Change) (s : Store) (b : Binding) (time : Timestamp) : ChangeEvent :=
  ⟨b.source, some c.workspace, c.paths, c.kind, s.sequence + 1, time⟩

namespace StoreEdit

variable {s : System} {id : StoreId} {e : StoreEdit} {contents : Store}

/-- An edit that changes a store is counted, and then its event is published on the bus of the store. -/
theorem run_published (hid : id < s.depot.stores.size) {b : Binding}
    (hbound : (s.depot.store id).binding = some b) {c : Change}
    (hchange : e.change (s.depot.store id) = .ok (contents, some c)) :
    e.run id s = ((publishWith (notifyNested (s.eventDepth - 1)) b.bus (c.event contents b s.now)).run
      (s.setDepot (s.depot.setStore id { contents with sequence := contents.sequence + 1 }))).2 := by
  obtain ⟨α, answer, hrun⟩ := e.run_eq id s
  obtain ⟨depth, hdepth⟩ : ∃ depth, s.eventDepth = depth + 1 := ⟨_, rfl⟩
  have hbinding : contents.binding = some b := (edit hchange).kept.2.1.trans hbound
  let s₁ := s.setDepot (s.depot.setStore id contents)
  have hcontents : s₁.depot.store id = contents :=
    (System.getD_set ..).trans (if_pos ⟨rfl, hid⟩)
  have hannounced : (s₁.depot.store id).announce s₁.now c =
      ({ contents with sequence := contents.sequence + 1 },
        some (b.bus, c.event contents b s.now)) := by
    rw [hcontents]
    unfold Store.announce
    rw [hbinding]
    rfl
  have hset : s₁.setDepot (s₁.depot.setStore id { contents with sequence := contents.sequence + 1 }) =
      s.setDepot (s.depot.setStore id { contents with sequence := contents.sequence + 1 }) := by
    change s.setDepot { s.depot with stores := (s.depot.stores.setIfInBounds id _).setIfInBounds id _ } = _
    rw [Array.setIfInBounds_setIfInBounds]
    rfl
  rw [hrun, hdepth]
  unfold changeStore
  rw [Following.changeWith_run, hchange]
  change ((announceWith _ id c).run s₁).2 = _
  rw [Following.announceWith_run hannounced, hset]
  rfl

end StoreEdit

/-- In a system with a store that came about by calls and serves a source, an edit that succeeds changes
no other workspace than its own.  Wherever a node comes up, goes, or has other properties afterwards, the
event that is published on the bus of the store is about that workspace and touches the node's path, and
all paths above. -/
theorem changes_covered {s : System} {id : StoreId} {b : Binding} {e : StoreEdit} {contents : Store}
    {changed : Option Change} (hreached : (s.depot.store id).Reached)
    (hbound : (s.depot.store id).binding = some b)
    (hchange : e.change (s.depot.store id) = .ok (contents, changed)) :
    (∀ name, name ≠ e.workspace (s.depot.store id) →
      contents.workspace? name = (s.depot.store id).workspace? name) ∧
    ∀ name q, contents.lookup? name q ≠ (s.depot.store id).lookup? name q →
      ∃ event, e.run id s = ((publishWith (notifyNested (s.eventDepth - 1)) b.bus event).run
          (s.setDepot (s.depot.setStore id { contents with sequence := contents.sequence + 1 }))).2 ∧
        event.source = b.source ∧ event.workspace = some name ∧ event.touches q = true ∧
        ∀ p, q.isAtOrBelow p = true → event.touches p = true := by
  have hedit := StoreEdit.edit hchange
  constructor
  · intro name hname
    refine hedit.others fun c hc heq => hname ?_
    subst hc
    exact heq ▸ StoreEdit.change_workspace hchange
  · intro name q hdiffers
    obtain ⟨c, rfl, rfl, p, hp, hnear⟩ := hedit.of_differs hreached.sound.ordered hdiffers
    have hid : id < s.depot.stores.size := by
      refine Nat.lt_of_not_ge fun hout => ?_
      have hdefault : s.depot.store id = default := System.getD_out _ _ _ hout
      rw [hdefault] at hbound
      cases hbound
    have htouches : (c.event contents b s.now).touches q = true :=
      (Bool.eq_false_or_eq_true _).resolve_right fun hmissed =>
        hnear (NodePath.apart_of_not_touches hmissed hp)
    exact ⟨c.event contents b s.now, StoreEdit.run_published hid hbound hchange, rfl, rfl, htouches,
      fun above => NodePath.touches_above htouches⟩

/-- The node above the one that is put comes up unnamed. -/
theorem changes_covered_container :
    ∃ contents changed event,
      StoreEdit.describe.change (System.followed.depot.store 0) = .ok (contents, changed) ∧
      StoreEdit.describe.run 0 .followed =
        ((publishWith (notifyNested (System.followed.eventDepth - 1)) 0 event).run
          (System.followed.setDepot (System.followed.depot.setStore 0
            { contents with sequence := contents.sequence + 1 }))).2 ∧
      event.workspace = some "default" ∧ event.touches (.ofPieces "/cairn:sources".toList) = true := by
  have hreached : (System.followed.depot.store 0).Reached :=
    ⟨.new, .new, [.bind ⟨"engine", "config", 0⟩], rfl⟩
  have hchange : StoreEdit.describe.change (System.followed.depot.store 0) = .ok (_, _) := rfl
  obtain ⟨event, hrun, -, hworkspace, htouches, -⟩ :=
    (changes_covered hreached rfl hchange).2 "default" (.ofPieces "/cairn:sources".toList)
      fun hsame => absurd (congrArg Option.isSome hsame) (by decide +kernel)
  exact ⟨_, _, event, hchange, hrun, hworkspace, htouches⟩

end ContentEngine
