import ContentEngine.Proofs.Run.Reloading
import ContentEngine.Proofs.Store.Edits

/-!
# Reading a source that a store serves

A graph over a source of an open federation reads what the store behind the source holds.  It has an
answer if and only if the store is available and has the workspace.

## Strategy

A graph is read through a connection of the source's pool: an idle one, of which custody says that it is
a connection to the store and not closed, or a new one, which is refused only if the store is out of
reach.
-/

namespace ContentEngine

variable {held : List Stake} {s s' : System} {id : FederationId} {store : StoreId}

/-! ## Borrowing -/

/-- An open pool over a store lends a connection to that store which is not closed, or has none since the
store is out of reach. -/
theorem Custody.checkout_plain {history : List Handling} {d : Depot} {p : PoolId}
    (h : Custody history held d) (hopen : (d.pool p).closed = false)
    (hconnector : (d.pool p).connector = ⟨store, .plain⟩) :
    (∃ loan d', d.checkout p = (.borrowed loan, d') ∧ d'.stores = d.stores ∧
      (d'.connection loan.connection).store = store ∧
      (d'.connection loan.connection).closed = false) ∨
    (d.store store).unavailable = true ∧ ∃ failure, d.checkout p = (.refused failure, d) := by
  unfold Depot.checkout
  simp only [hopen, Bool.false_eq_true, if_false]
  cases hidle : (d.pool p).idle with
  | cons c rest =>
      refine .inl ⟨_, _, rfl, rfl, ?_⟩
      have hmem : c ∈ (d.pool p).idle := hidle ▸ List.mem_cons_self
      have hopened := h.idle p c hmem
      -- a connection is in one place, so one that is idle was not closed
      have hcount := h.place hopened
      have hidles : 0 < (d.pool p).idle.count c := List.count_pos_iff.mpr hmem
      have hnot : history.count (.closed c) = 0 := by omega
      constructor
      · exact (h.origin hopened).2.trans (congrArg Connector.store hconnector)
      · refine Bool.eq_false_iff.mpr fun hclosed => ?_
        exact List.count_eq_zero.mp hnot ((h.flag hopened).mp hclosed)
  | nil =>
      cases havailable : (d.store store).unavailable with
      | false =>
          let connection : Connection := ⟨store, (d.store store).sourceLabel, .always, false, false⟩
          have hconnect : d.connect (d.pool p).connector =
              (.ok d.connections.size, { d with connections := d.connections.push connection }) := by
            unfold Depot.connect Store.connect
            rw [hconnector]
            simp only [Manner.plain, havailable, Bool.false_eq_true, if_false]
            rfl
          unfold Depot.finishOpening
          rw [hconnect, hconnector]
          refine .inl ⟨_, _, rfl, rfl, ?_⟩
          unfold Depot.connection
          rw [System.getD_push, if_pos rfl]
          exact ⟨rfl, rfl⟩
      | true =>
          have hconnect : ∃ failure, d.connect (d.pool p).connector = (.error failure, d) := by
            unfold Depot.connect Store.connect
            rw [hconnector]
            simp only [Manner.plain, havailable, if_true]
            exact ⟨_, rfl⟩
          obtain ⟨failure, hconnect⟩ := hconnect
          unfold Depot.finishOpening
          rw [hconnect, hconnector]
          exact .inr ⟨rfl, failure, rfl⟩

/-- Asking for a connection changes what the pools of the depot hold. -/
theorem requestConnection_run (id : FederationId) (source : String) (s : System) :
    (requestConnection id source).run s = (((s.federation id).borrow s.depot source).1,
      (s.setFederation id (s.federation id)).setDepot
        ((s.federation id).borrow s.depot source).2) :=
  rfl

/-! ## Reading -/

/-- A source of an open federation is served from a store itself. -/
structure System.Serves (s : System) (id : FederationId) (name : String) (store : StoreId) : Prop where
  isOpen : s.IsOpen id
  pool : ∃ p, s.pool? id name = some p ∧ (s.depot.pool p).connector = ⟨store, .plain⟩

theorem System.Serves.of_background {name : String} (h : s.Serves id name store)
    (hbackground : Background s s') (hun : s.Unthreatened id) : s'.Serves id name store := by
  obtain ⟨p, hp, hconnector⟩ := h.pool
  have hfederation := hbackground.spared id hun
  refine ⟨?_, p, ?_, (hbackground.depot.pools p).connector.trans hconnector⟩
  · have hopen := h.isOpen
    unfold System.IsOpen at hopen ⊢
    rwa [hfederation]
  · rwa [System.pool?, hfederation]

theorem Depot.read_plain {d : Depot} {c : ConnectionId} (hstore : (d.connection c).store = store)
    (hclosed : (d.connection c).closed = false) (workspace : Option String) (root : NodePath)
    (depth : Nat) (container : Option Subgraph) :
    d.read c workspace root depth = .ok container ↔ (d.store store).unavailable = false ∧
      ∃ nodes, (d.store store).read? workspace = some nodes ∧
        nodes.subgraph? root depth = container := by
  unfold Depot.read Connection.read Connection.ping
  dsimp only
  rw [hstore, hclosed]
  cases (d.store store).unavailable with
  | true => exact ⟨nofun, fun hread => nomatch hread.1⟩
  | false =>
      have hread : (d.store store).workspace? (workspace.getD (d.store store).defaultWorkspace) =
          (d.store store).read? workspace := rfl
      simp only [Bool.false_eq_true, if_false, hread, true_and]
      cases (d.store store).read? workspace with
      | none => exact ⟨nofun, fun ⟨_, hnone, _⟩ => nomatch hnone⟩
      | some nodes =>
          refine ⟨fun hok => ⟨nodes, rfl, Except.ok.inj hok⟩, fun ⟨nodes', hnodes, hok⟩ => ?_⟩
          obtain rfl := Option.some.inj hnodes
          exact congrArg Except.ok hok

theorem Graph.subgraph_ok_iff (h : Trading held s) {g : Graph}
    (hserves : s.Serves g.federation g.source store) (root : NodePath) (depth : Nat)
    (container : Option Subgraph) :
    ((g.subgraph root depth).run s).1 = .ok container ↔
      (s.depot.store store).unavailable = false ∧
        ∃ nodes, (s.depot.store store).read? g.workspace = some nodes ∧
          nodes.subgraph? root depth = container := by
  obtain ⟨hopen, p, hp, hconnector⟩ := hserves
  obtain ⟨-, history, hdealings⟩ := h.dealt
  have hpool := h.housed.opened g.federation hopen g.source p hp
  have hstate : (s.federation g.federation).state.isClosed = false := hopen
  have hfound : Table.get? (s.federation g.federation).pools g.source = some p := hp
  unfold Graph.subgraph borrowConnection
  rw [run_bind, run_bind, requestConnection_run]
  rcases hdealings.custody.1.checkout_plain hpool hconnector with
    ⟨loan, d', hcheckout, hstores, hstore, hclosed⟩ | ⟨hunavailable, failure, hcheckout⟩
  · have hborrow : (s.federation g.federation).borrow s.depot g.source = (.done loan, d') := by
      unfold Federation.borrow Federation.borrowWith Federation.requireOpen
      simp only [hstate, Bool.false_eq_true, if_false, hfound, hcheckout]
    have hsame : d'.store store = s.depot.store store := by rw [Depot.store, hstores, Depot.store]
    have hgiven : (withDepot fun d => (d.read loan.connection g.workspace root depth,
        d.release loan)).run ((s.setFederation g.federation (s.federation g.federation)).setDepot d') =
          (d'.read loan.connection g.workspace root depth, ((s.setFederation g.federation
            (s.federation g.federation)).setDepot d').setDepot (d'.release loan)) := rfl
    have hawaited : ∀ s : System, (awaitBorrowing g.federation 2 (.done loan)).run s = (.ok loan, s) :=
      fun _ => rfl
    rw [hborrow, ← hsame, ← Depot.read_plain hstore hclosed]
    dsimp only
    rw [hawaited]
    dsimp only
    rw [run_bind, hgiven]
    dsimp only
    cases d'.read loan.connection g.workspace root depth with
    | ok graph =>
        exact ⟨fun hok => congrArg Except.ok (Except.ok.inj hok),
          fun hok => congrArg Except.ok (Except.ok.inj hok)⟩
    | error failure => refine ⟨fun hok => ?_, fun hok => ?_⟩ <;> cases hok
  · have hborrow : (s.federation g.federation).borrow s.depot g.source =
        (.failed (.connection g.source failure), s.depot) := by
      unfold Federation.borrow Federation.borrowWith Federation.requireOpen Federation.afterRefusal
      simp only [hstate, Bool.false_eq_true, if_false, hfound, hcheckout, hpool]
    rw [hborrow, hunavailable]
    refine ⟨fun hok => ?_, fun hread => ?_⟩
    · cases hok
    · cases hread.1

end ContentEngine
