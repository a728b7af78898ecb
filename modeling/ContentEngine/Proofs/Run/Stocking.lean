import ContentEngine.Proofs.Run.Background

/-!
# Stores that connectors leave alone

Registering a source makes or shares a store and binds it to the source.  A store that no connector of a
federation shares is left alone by all reloads of that federation.

## Strategy

`Stocked` says what is the same about one store: its content, the names that stand for it, and the plans
of all federations.  A connector that is built from such a plan has another store, either a new one or
one that a name stands for; so `Stocked` outlasts each piece of a reload.
-/

namespace ContentEngine

variable {id : FederationId} {store : StoreId} {s₀ s s' : System}

/-- No connector of a federation shares a store. -/
def System.Unshared (s : System) (id : FederationId) (store : StoreId) : Prop :=
  ∀ d plan name, (s.federation id).planFor d = .ok plan → plan.store = .shared name →
    Table.get? s.depot.names name ≠ some store

/-- Stores were made and bound to sources, but one of them is as before. -/
structure Stocked (store : StoreId) (s s' : System) : Prop where
  size : s.depot.stores.size ≤ s'.depot.stores.size
  kept : s'.depot.store store = s.depot.store store
  names : ∀ name, Table.get? s'.depot.names name = some store →
    Table.get? s.depot.names name = some store
  plans : ∀ f d, (s'.federation f).planFor d = (s.federation f).planFor d

namespace Stocked

theorem refl (store : StoreId) (s : System) : Stocked store s s :=
  ⟨Nat.le_refl _, rfl, fun _ h => h, fun _ _ => rfl⟩

theorem trans {s'' : System} (h : Stocked store s s') (h' : Stocked store s' s'') :
    Stocked store s s'' where
  size := Nat.le_trans h.size h'.size
  kept := h'.kept.trans h.kept
  names name hname := h.names name (h'.names name hname)
  plans f d := (h'.plans f d).trans (h.plans f d)

theorem unshared (h : Stocked store s s') (hunshared : s.Unshared id store) : s'.Unshared id store := by
  intro d plan name hplan hshared hname
  rw [h.plans] at hplan
  exact hunshared d plan name hplan hshared (h.names name hname)

/-- A change that leaves all stores alone. -/
theorem of_eq (hstores : s'.depot.stores = s.depot.stores) (hnames : s'.depot.names = s.depot.names)
    (hplans : ∀ f d, (s'.federation f).planFor d = (s.federation f).planFor d) : Stocked store s s' where
  size := Nat.le_of_eq (congrArg Array.size hstores.symm)
  kept := by rw [Depot.store, hstores, Depot.store]
  names name hname := hnames ▸ hname
  plans := hplans

theorem of_background (h : Background s s') : Stocked store s s' :=
  of_eq h.depot.stores h.depot.names fun f d => by
    obtain ⟨_, heq⟩ := h.federations f
    rw [heq]
    rfl

/-- A change of a federation and the depot that leaves the connectors alone. -/
theorem of_change {f : Federation} {d : Depot}
    (hconnectors : f.connectors = (s.federation id).connectors)
    (hsize : s.depot.stores.size ≤ d.stores.size) (hstore : d.store store = s.depot.store store)
    (hnames : ∀ name, Table.get? d.names name = some store →
      Table.get? s.depot.names name = some store) :
    Stocked store s ((s.setFederation id f).setDepot d) := by
  refine ⟨hsize, hstore, hnames, fun other desired => ?_⟩
  have hfederation : ((s.setFederation id f).setDepot d).federation other =
      if other = id ∧ id < s.federations.size then f else s.federation other :=
    s.federation_setFederation id other f
  rw [hfederation]
  split
  · rename_i hother
    unfold Federation.planFor
    rw [hconnectors, hother.1]
  · rfl

/-- A change of another store. -/
theorem setStore {other : StoreId} (hother : other ≠ store) (changed : Store) :
    Stocked store s (s.setDepot (s.depot.setStore other changed)) where
  size := Nat.le_of_eq Array.size_setIfInBounds.symm
  kept := (System.getD_set ..).trans (if_neg fun h => hother h.1.symm)
  names _ h := h
  plans _ _ := rfl

/-! ## Registering and removing -/

/-- The store of a name that does not stand for a store is another one. -/
theorem sharedStore (hlt : store < s.depot.stores.size) {name : String}
    (hname : Table.get? s.depot.names name ≠ some store) :
    Stocked store s (s.setDepot (s.depot.sharedStore name).2) ∧
      (s.depot.sharedStore name).1 ≠ store := by
  unfold Depot.sharedStore
  cases hfound : Table.get? s.depot.names name with
  | some other =>
      refine ⟨of_eq rfl rfl fun _ _ => rfl, ?_⟩
      rintro rfl
      exact hname hfound
  | none =>
      have hadded := Depot.Extends.addStore s.depot Store.new
      refine ⟨⟨hadded.size, hadded.stores store hlt, fun other hother => ?_, fun _ _ => rfl⟩,
        Nat.ne_of_gt hlt⟩
      change Table.get? (Table.insert name s.depot.stores.size s.depot.names) other = _ at hother
      rw [Table.get?_insert] at hother
      split at hother
      · exact absurd (Option.some.inj hother) (Nat.ne_of_gt hlt)
      · exact hother

/-- A connector that is built has another store, unless its plan shares the store. -/
theorem build (hlt : store < s₀.depot.stores.size) {plan : ConnectorPlan}
    (hshared : ∀ name, plan.store = .shared name → Table.get? s₀.depot.names name ≠ some store) :
    Ensures (Stocked store s₀) (withDepot fun d => d.build plan)
      fun connector s => Stocked store s₀ s ∧ connector.store ≠ store := by
  refine .exchange fun s hs => ?_
  have hlt : store < s.depot.stores.size := Nat.lt_of_lt_of_le hlt hs.size
  unfold Depot.build
  cases hplan : plan.store with
  | own added =>
      have hadded := Depot.Extends.addStore s.depot added
      exact ⟨hs.trans ⟨hadded.size, hadded.stores store hlt, fun _ h => h, fun _ _ => rfl⟩,
        Nat.ne_of_gt hlt⟩
  | shared name =>
      obtain ⟨hstocked, hother⟩ := sharedStore hlt fun hname => hshared name hplan (hs.names name hname)
      exact ⟨hs.trans hstocked, hother⟩

theorem install {connector : Connector} (hconnector : connector.store ≠ store) (id : FederationId)
    (name : String) (descriptor : Option SourceDescriptor) :
    Ensures (Stocked store s₀) (withFederation id fun f d => f.install d name connector descriptor)
      fun _ => Stocked store s₀ := by
  refine .exchange fun s hs => hs.trans ?_
  obtain ⟨hnames, hstores⟩ :=
    (s.federation id).install_stores s.depot name connector descriptor
  have hconnectors : ((s.federation id).install s.depot name connector descriptor).2.1.connectors =
      (s.federation id).connectors := by
    rcases (s.federation id).install_cases s.depot name connector descriptor with
      ⟨_, _, heq, -⟩ | ⟨_, -, -, -, heq⟩
    · rw [heq]
    · rw [heq]
  refine of_change hconnectors ?_ ?_ fun _ h => hnames ▸ h
  · rcases hstores with heq | heq
    · exact Nat.le_of_eq (congrArg Array.size heq.symm)
    · rw [heq]
      exact Nat.le_of_eq Array.size_setIfInBounds.symm
  · rcases hstores with heq | heq
    · rw [Depot.store, heq, Depot.store]
    · rw [Depot.store, heq]
      exact (System.getD_set ..).trans (if_neg fun h => hconnector h.1.symm)

section reload

variable (hlt : store < s₀.depot.stores.size) (hunshared : s₀.Unshared id store)
include hlt hunshared

theorem registerSource (d : SourceDescriptor) :
    Ensures (Stocked store s₀) (registerSource id d) fun _ => Stocked store s₀ := by
  unfold ContentEngine.registerSource
  refine .seq (.part (Q := fun f s => Stocked store s₀ s ∧
    f.planFor d = (s₀.federation id).planFor d) fun s hs => ⟨hs, hs.plans id d⟩) fun f => ?_
  refine .given fun hplans => ?_
  cases hplan : f.planFor d with
  | error fault => exact .answer fun _ hs => hs
  | ok plan =>
      have hshared := fun name => hunshared d plan name (hplans.symm.trans hplan)
      refine .seq (build hlt hshared) fun connector => .given fun hconnector => ?_
      unfold installSource
      refine .seq (.part (Q := fun _ => Stocked store s₀) fun _ hs => hs) fun f => ?_
      cases f.requireOpen with
      | error fault => exact .answer fun _ hs => hs
      | ok _ =>
          refine .andThen (R := Stocked store s₀) (fun s hs => hs.trans ?_) fun _ =>
            install hconnector id d.name (some d)
          exact of_background ((Background.enduring s).elapse _ s (.refl s))

omit hlt hunshared in
theorem removeSource (id : FederationId) (name : String) :
    Ensures (Stocked store s₀) (removeSource id name) fun _ => Stocked store s₀ := by
  refine .exchange fun s hs => hs.trans ?_
  obtain ⟨hstores, hnames, hconnectors⟩ := (s.federation id).remove_stores s.depot name
  refine of_change hconnectors ?_ ?_ fun _ h => hnames ▸ h
  · exact Nat.le_of_eq (congrArg Array.size hstores.symm)
  · rw [Depot.store, hstores, Depot.store]

/-! ## Reloading -/

theorem applyDescriptors (ds : List SourceDescriptor) :
    Ensures (Stocked store s₀) (applyDescriptors id ds) fun _ => Stocked store s₀ := by
  unfold ContentEngine.applyDescriptors
  refine .seq (.read (Q := fun _ => Stocked store s₀) fun _ hs => hs) fun s => ?_
  refine .andThen (.loop (I := fun _ => Stocked store s₀) (fun r d _ => ?_) _) fun r => ?_
  · unfold reconcileOne
    refine .seq (.part (Q := fun _ => Stocked store s₀) fun _ hs => hs) fun f => ?_
    split
    · exact .answer fun _ hs => hs
    split
    · exact .answer fun _ hs => hs
    dsimp only
    split
    · exact .answer fun _ hs => hs
    refine .andThen (registerSource hlt hunshared d) fun result => ?_
    cases result <;> exact .answer fun _ hs => hs
  · refine .andThen (.loop (I := fun _ => Stocked store s₀) (fun r entry _ => ?_) _) fun r =>
      .answer fun _ hs => hs
    unfold reconcileRemoval
    split
    · refine .andThen (removeSource id entry.1) fun removed => ?_
      cases removed <;> exact .answer fun _ hs => hs
    · exact .answer fun _ hs => hs

end reload

end Stocked

end ContentEngine
