import ContentEngine.Proofs.Source.Dealing

/-!
# Installing and removing sources

What a federation and the depot look like after a source was registered or removed.  Registering
fails if the connector refuses to be initialized or the federation is closed, and then no pool changes.
Otherwise the source has a new pool, the pool that it had is closed, and no other pool changes.
-/

namespace ContentEngine

namespace Depot

variable {d : Depot}

private theorem stores_foldl_close (idle : List ConnectionId) (d : Depot) :
    (idle.foldl close d).stores = d.stores ∧ (idle.foldl close d).names = d.names := by
  induction idle generalizing d with
  | nil => exact ⟨rfl, rfl⟩
  | cons c idle ih => exact ih (d.close c)

theorem stores_closePool (d : Depot) (id : PoolId) : (d.closePool id).stores = d.stores :=
  (stores_foldl_close _ _).1

theorem names_closePool (d : Depot) (id : PoolId) : (d.closePool id).names = d.names :=
  (stores_foldl_close _ _).2

theorem pool_closePool_of_ne {id other : PoolId} (h : other ≠ id) :
    (d.closePool id).pool other = d.pool other := by
  rw [pool_closePool, if_neg fun heq => h heq.1]

theorem pool_closePools_of_not_mem {pools : List PoolId} {other : PoolId} (h : other ∉ pools) :
    (pools.foldl closePool d).pool other = d.pool other := by
  induction pools generalizing d with
  | nil => rfl
  | cons id rest ih =>
      rw [List.foldl_cons, ih fun hmem => h (List.mem_cons_of_mem _ hmem),
        pool_closePool_of_ne fun heq => h (List.mem_cons.mpr (.inl heq))]

theorem pools_size_closePools (d : Depot) (pools : List PoolId) :
    (pools.foldl closePool d).pools.size = d.pools.size := by
  induction pools generalizing d with
  | nil => rfl
  | cons id rest ih => exact (ih _).trans (d.pools_size_closePool id)

theorem pool_addPool (d : Depot) (p : Pool) (other : PoolId) :
    (d.addPool p).2.pool other = if other = d.pools.size then p else d.pool other :=
  System.getD_push ..

end Depot

namespace Federation

variable {f : Federation} {d : Depot} {name : String} {connector : Connector}
  {descriptor : Option SourceDescriptor}

/-- The pools that a federation serves its sources from were made. -/
def Made (f : Federation) (d : Depot) : Prop :=
  ∀ name p, Table.get? f.pools name = some p → p < d.pools.size

/-- The store of a connector is bound to the source that it serves. -/
def bound (f : Federation) (d : Depot) (name : String) (connector : Connector) : Depot :=
  d.setStore connector.store
    { d.store connector.store with binding := some ⟨f.engine, name, f.bus⟩ }

/-- The pools after a source was registered. -/
structure Installed (f : Federation) (d : Depot) (name : String) (connector : Connector)
    (descriptor : Option SourceDescriptor) (d' : Depot) : Prop where
  size : d'.pools.size = d.pools.size + 1
  fresh : d'.pool d.pools.size = .new name connector descriptor f.maxIdle
  retired : ∀ p, Table.get? f.pools name = some p →
    d'.pool p = { d.pool p with closed := true, idle := [] }
  others : ∀ p, p ≠ d.pools.size → Table.get? f.pools name ≠ some p → d'.pool p = d.pool p

/-- A connector that refuses to be initialized leaves everything as it is. -/
theorem install_refused {failure : Failure}
    (h : connector.manner.initializeFailure = some failure) :
    f.install d name connector descriptor = (.error (.connection name failure), f, d) := by
  unfold install Depot.bind
  rw [h]

/-- A federation that is closed registers no source, but its name is in the store. -/
theorem install_closed (h : connector.manner.initializeFailure = none)
    (hclosed : f.state.isClosed = true) : ∃ fault,
    f.install d name connector descriptor = (.error fault, f, f.bound d name connector) := by
  unfold install Depot.bind
  rw [h]
  dsimp only
  unfold requireOpen
  rw [if_pos hclosed]
  exact ⟨_, rfl⟩

/-- A federation that is open enrolls every source. -/
theorem enroll_open (name : String) (connector : Connector) (descriptor : Option SourceDescriptor)
    (hopen : f.state.isClosed = false) (hmade : f.Made d) :
    ∃ d', f.enroll d name connector descriptor =
        (.ok (), { f with pools := Table.insert name d.pools.size f.pools }, d') ∧
      f.Installed d name connector descriptor d' := by
  unfold enroll requireOpen
  rw [hopen, if_neg Bool.false_ne_true]
  have hpool := d.pool_addPool (.new name connector descriptor f.maxIdle)
  have hsize : (d.addPool (.new name connector descriptor f.maxIdle)).2.pools.size =
      d.pools.size + 1 := Array.size_push _
  cases hold : Table.get? f.pools name with
  | none =>
      refine ⟨_, rfl, hsize, ?_, fun p hp => ?_, fun p hp _ => ?_⟩
      · exact (hpool _).trans (if_pos rfl)
      · rw [hold] at hp
        cases hp
      · exact (hpool p).trans (if_neg hp)
  | some old =>
      have hlt := hmade name old hold
      let d' := (d.addPool (.new name connector descriptor f.maxIdle)).2
      refine ⟨d'.closePool old, rfl, ?_, ?_, fun p hp => ?_, fun p hp hother => ?_⟩
      · exact (d'.pools_size_closePool old).trans hsize
      · rw [Depot.pool_closePool_of_ne (Nat.ne_of_gt hlt)]
        exact (hpool _).trans (if_pos rfl)
      · obtain rfl : old = p := Option.some.inj (hold.symm.trans hp)
        rw [Depot.pool_closePool, if_pos ⟨rfl, by rw [hsize]; exact Nat.lt_succ_of_lt hlt⟩]
        rw [(hpool old).trans (if_neg (Nat.ne_of_lt hlt))]
      · rw [Depot.pool_closePool_of_ne fun heq => hother (hold.trans (congrArg some heq.symm))]
        exact (hpool p).trans (if_neg hp)

theorem install_open (h : connector.manner.initializeFailure = none)
    (hopen : f.state.isClosed = false) (hmade : f.Made d) :
    ∃ d', f.install d name connector descriptor =
        (.ok (), { f with pools := Table.insert name d.pools.size f.pools }, d') ∧
      f.Installed d name connector descriptor d' := by
  have hbind : d.bind connector ⟨f.engine, name, f.bus⟩ = .ok (f.bound d name connector) := by
    unfold Depot.bind
    rw [h]
    rfl
  have hbound : f.Made (f.bound d name connector) := hmade
  obtain ⟨d', hok, hinstalled⟩ := enroll_open name connector descriptor hopen hbound
  rw [f.install_eq, hbind]
  exact ⟨d', hok, hinstalled.size, hinstalled.fresh, hinstalled.retired, hinstalled.others⟩

/-- Registering a source binds the store of its connector, if any. -/
theorem install_stores (f : Federation) (d : Depot) (name : String) (connector : Connector)
    (descriptor : Option SourceDescriptor) :
    let d' := (f.install d name connector descriptor).2.2
    d'.names = d.names ∧ (d'.stores = d.stores ∨ d'.stores = (f.bound d name connector).stores) := by
  dsimp only
  unfold install Depot.bind
  cases connector.manner.initializeFailure with
  | some failure => exact ⟨rfl, .inl rfl⟩
  | none =>
      dsimp only
      cases f.requireOpen with
      | error fault => exact ⟨rfl, .inr rfl⟩
      | ok _ =>
          dsimp only
          cases Table.get? f.pools name with
          | none => exact ⟨rfl, .inr rfl⟩
          | some old => exact ⟨Depot.names_closePool _ old, .inr (Depot.stores_closePool _ old)⟩

/-- Registering a source changes of a store at most to which source it is bound. -/
theorem install_store (f : Federation) (d : Depot) (name : String) (connector : Connector)
    (descriptor : Option SourceDescriptor) (store : StoreId) : ∃ binding,
      (f.install d name connector descriptor).2.2.store store =
        { d.store store with binding := binding } := by
  obtain ⟨-, hstores | hstores⟩ := f.install_stores d name connector descriptor
  · exact ⟨(d.store store).binding, by rw [Depot.store, hstores]; rfl⟩
  · have hbound := System.getD_set d.stores connector.store store
      { d.store connector.store with binding := some ⟨f.engine, name, f.bus⟩ } default
    rw [Depot.store, hstores]
    by_cases hsame : store = connector.store ∧ connector.store < d.stores.size
    · exact ⟨_, (hbound.trans (if_pos hsame)).trans (by rw [hsame.1])⟩
    · exact ⟨(d.store store).binding, hbound.trans (if_neg hsame)⟩

/-- The pools after a source was removed. -/
structure Removed (f : Federation) (d : Depot) (name : String) (d' : Depot) : Prop where
  size : d'.pools.size = d.pools.size
  retired : ∀ p, Table.get? f.pools name = some p →
    d'.pool p = { d.pool p with closed := true, idle := [] }
  others : ∀ p, Table.get? f.pools name ≠ some p → d'.pool p = d.pool p

theorem removed (hmade : f.Made d) (name : String) : f.Removed d name (f.remove d name).2.2 := by
  cases hname : Table.get? f.pools name with
  | none =>
      rw [depot_remove_absent hname]
      exact ⟨rfl, fun q hq => (nomatch hname.symm.trans hq), fun _ _ => rfl⟩
  | some p =>
      rw [depot_remove hname]
      refine ⟨d.pools_size_closePool p, fun q hq => ?_, fun q hq => ?_⟩
      · obtain rfl : p = q := Option.some.inj (hname.symm.trans hq)
        rw [d.pool_closePool, if_pos ⟨rfl, hmade name p hname⟩]
      · exact Depot.pool_closePool_of_ne fun heq => hq (hname.trans (congrArg some heq.symm))

theorem remove_stores (f : Federation) (d : Depot) (name : String) :
    (f.remove d name).2.2.stores = d.stores ∧ (f.remove d name).2.2.names = d.names ∧
      (f.remove d name).2.1.connectors = f.connectors := by
  unfold remove
  cases Table.get? f.pools name with
  | none => exact ⟨rfl, rfl, rfl⟩
  | some p => exact ⟨d.stores_closePool p, d.names_closePool p, rfl⟩

end Federation

end ContentEngine
