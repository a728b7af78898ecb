import ContentEngine.Proofs.Source.Custody

/-!
# The connections that pools hand out

Whoever borrows a connection gets at the connector's own connection, and may close it.  Nothing tells the
pool so: whether a connection that comes back is kept depends on the pool, the room in it, and how often
the connection may be used, and not on whether it is closed.  A connection that was closed by its borrower
therefore goes back to the idle ones, and the pool hands it out again.  This is the only way in which a
pool hands out a closed connection.

## Strategy

A depot in which borrowers closed connections is one in which they did not, with these connections
`spoiled`.  No operation on a pool looks at what is spoiled, so it makes no difference whether connections
are spoiled before it or after it (`spoiled_modify`, `finishOpening_spoiled`, `checkout_spoiled`,
`release_spoiled`, `closePool_spoiled`).  The run without spoiled connections keeps custody of them, by
which a connection that is lent was not closed.
-/

namespace ContentEngine

namespace Depot

variable {broken : List ConnectionId} {d d' : Depot}

/-! ## Spoiled connections -/

/-- The depot in which some connections were closed by their borrowers. -/
def spoiled (broken : List ConnectionId) (d : Depot) : Depot :=
  { d with connections := d.connections.mapIdx fun c connection =>
      { connection with closed := connection.closed || broken.contains c } }

theorem spoiled_nil (d : Depot) : d.spoiled [] = d := by
  have hconnections : (d.spoiled []).connections = d.connections := by
    refine Array.ext (by simp [spoiled]) fun i hi _ => ?_
    simp [spoiled]
  exact congrArg (fun connections => { d with connections := connections }) hconnections

theorem connection_spoiled (broken : List ConnectionId) (d : Depot) (c : ConnectionId) :
    (d.spoiled broken).connection c =
      { d.connection c with closed := (d.connection c).closed || broken.contains c } := by
  simp only [connection, spoiled, Array.getD_eq_getD_getElem?, Array.getElem?_mapIdx]
  cases d.connections[c]? with
  | none => rfl
  | some connection => rfl

/-- A change of a connection that leaves alone whether it is closed, or closes it, does not look at
whether it is spoiled. -/
theorem spoiled_modify (broken : List ConnectionId) (d : Depot) (c : ConnectionId)
    {f : Connection → Connection} (hf : ∀ connection b,
      f { connection with closed := connection.closed || b } =
        { f connection with closed := (f connection).closed || b }) :
    { d.spoiled broken with connections := (d.spoiled broken).connections.modify c f } =
      ({ d with connections := d.connections.modify c f } : Depot).spoiled broken := by
  have hconnections : (d.spoiled broken).connections.modify c f =
      (({ d with connections := d.connections.modify c f } : Depot).spoiled broken).connections := by
    refine Array.ext (by simp [spoiled]) fun i hi _ => ?_
    simp only [spoiled, Array.getElem_modify, Array.getElem_mapIdx]
    split
    · exact hf _ _
    · rfl
  exact congrArg (fun connections => { d with connections := connections }) hconnections

theorem close_spoiled (broken : List ConnectionId) (d : Depot) (c : ConnectionId) :
    (d.spoiled broken).close c = (d.close c).spoiled broken :=
  spoiled_modify broken d c fun _ _ => by simp

theorem ping_spoiled (broken : List ConnectionId) (d : Depot) (c : ConnectionId) :
    ((d.spoiled broken).ping c).2 = (d.ping c).2.spoiled broken :=
  spoiled_modify broken d c fun _ _ => rfl

/-- A connection that its borrower closes is spoiled. -/
theorem close_eq_spoiled (broken : List ConnectionId) (d : Depot) (c : ConnectionId) :
    (d.spoiled broken).close c = d.spoiled (c :: broken) := by
  have hconnections : ((d.spoiled broken).close c).connections = (d.spoiled (c :: broken)).connections := by
    refine Array.ext (by simp [close, spoiled]) fun i hi _ => ?_
    simp only [close, spoiled, Array.getElem_modify, Array.getElem_mapIdx]
    split
    · rename_i hc
      simp [hc]
    · rename_i hc
      simp [Ne.symm hc]
  exact congrArg (fun connections => { d with connections := connections }) hconnections

/-! ## Pools do not look at what is spoiled -/

theorem foldl_close_spoiled (broken : List ConnectionId) (d : Depot) (l : List ConnectionId) :
    l.foldl close (d.spoiled broken) = (l.foldl close d).spoiled broken := by
  induction l generalizing d with
  | nil => rfl
  | cons c rest ih => rw [List.foldl_cons, List.foldl_cons, close_spoiled, ih]

theorem closePool_spoiled (broken : List ConnectionId) (d : Depot) (id : PoolId) :
    (d.spoiled broken).closePool id = (d.closePool id).spoiled broken :=
  foldl_close_spoiled broken { d with pools := d.pools.modify id ({ · with closed := true, idle := [] }) } _

theorem release_spoiled (broken : List ConnectionId) (d : Depot) (loan : Loan) :
    (d.spoiled broken).release loan = (d.release loan).spoiled broken := by
  have hkeeps : (d.pool loan.pool).keeps ((d.spoiled broken).connection loan.connection) =
      (d.pool loan.pool).keeps (d.connection loan.connection) := by
    rw [connection_spoiled]
    rfl
  have hrelease : (d.spoiled broken).release loan =
      if (d.pool loan.pool).keeps ((d.spoiled broken).connection loan.connection) = true then
        ({ d with pools := d.pools.modify loan.pool fun p =>
          { p with idle := loan.connection :: p.idle } } : Depot).spoiled broken
      else (d.spoiled broken).close loan.connection := rfl
  rw [hrelease, hkeeps, close_spoiled]
  unfold release
  split <;> rfl

section opening

variable (hbroken : ∀ c ∈ broken, c < d.connections.size)
include hbroken

/-- A connection that is opened is not spoiled. -/
theorem connect_spoiled (connector : Connector) : (d.spoiled broken).connect connector =
    ((d.connect connector).1, (d.connect connector).2.spoiled broken) := by
  have hstore : (d.spoiled broken).store connector.store = d.store connector.store := rfl
  unfold connect
  rw [hstore]
  split
  · rfl
  · split
    · rfl
    · rename_i connection _
      have hfresh : broken.contains d.connections.size = false := by
        rw [← Bool.not_eq_true, List.contains_iff_mem]
        exact fun hmem => Nat.lt_irrefl _ (hbroken _ hmem)
      have hsize : (d.spoiled broken).connections.size = d.connections.size := Array.size_mapIdx
      have hpush : ({ d with connections := d.connections.push connection } : Depot).spoiled broken =
          { d with connections := (d.spoiled broken).connections.push connection } := by
        unfold spoiled
        rw [Array.mapIdx_push, hfresh, Bool.or_false]
      rw [hsize, hpush]
      rfl

theorem finishOpening_spoiled (id : PoolId) : (d.spoiled broken).finishOpening id =
    ((d.finishOpening id).1, (d.finishOpening id).2.spoiled broken) := by
  have hpool : (d.spoiled broken).pool id = d.pool id := rfl
  unfold finishOpening
  rw [hpool, connect_spoiled hbroken]
  rcases d.connect (d.pool id).connector with ⟨_ | _, _⟩ <;> rfl

theorem checkout_spoiled (id : PoolId) : (d.spoiled broken).checkout id =
    ((d.checkout id).1, (d.checkout id).2.spoiled broken) := by
  have hpool : (d.spoiled broken).pool id = d.pool id := rfl
  unfold checkout
  rw [hpool, finishOpening_spoiled hbroken]
  dsimp only
  split
  · rfl
  split
  · rfl
  split
  · rcases d.finishOpening id with ⟨_ | _, _⟩ <;> rfl
  · rfl

theorem checkout_of_spoiled {id : PoolId} {result : Checkout}
    (hout : (d.spoiled broken).checkout id = (result, d')) :
    ∃ d₁ : Depot, d.checkout id = (result, d₁) ∧ d' = d₁.spoiled broken := by
  rw [checkout_spoiled hbroken] at hout
  obtain ⟨rfl, rfl⟩ := Prod.mk.inj hout
  exact ⟨_, rfl, rfl⟩

theorem finishOpening_of_spoiled {id : PoolId} {result : Except Failure Loan}
    (hout : (d.spoiled broken).finishOpening id = (result, d')) :
    ∃ d₁ : Depot, d.finishOpening id = (result, d₁) ∧ d' = d₁.spoiled broken := by
  rw [finishOpening_spoiled hbroken] at hout
  obtain ⟨rfl, rfl⟩ := Prod.mk.inj hout
  exact ⟨_, rfl, rfl⟩

end opening

end Depot

/-! ## Using pools -/

/-- What borrowers of connections have, and which connections they closed themselves, in the depots that
come of using pools. -/
inductive PoolUse : List Stake → List ConnectionId → Depot → Prop
  | start : PoolUse [] [] .empty
  /-- Whatever happens to stores. -/
  | stores {held broken d d'} : PoolUse held broken d → d'.connections = d.connections →
      d'.pools = d.pools → PoolUse held broken d'
  | addPool {held broken d p} : PoolUse held broken d → p.idle = [] →
      PoolUse held broken (d.addPool p).2
  | borrow {held broken d d' id loan} : PoolUse held broken d → id < d.pools.size →
      d.checkout id = (.borrowed loan, d') → PoolUse (.loan loan :: held) broken d'
  | refuse {held broken d d' id failure} : PoolUse held broken d → id < d.pools.size →
      d.checkout id = (.refused failure, d') → PoolUse held broken d'
  | wait {held broken d d' o millis} : PoolUse held broken d → o.pool < d.pools.size →
      d.checkout o.pool = (.opening millis, d') → PoolUse (.opening o :: held) broken d'
  /-- The opening of a connection ends well. -/
  | finish {held broken d d' o loan} : PoolUse held broken d → .opening o ∈ held →
      d.finishOpening o.pool = (.ok loan, d') →
      PoolUse (.loan loan :: held.erase (.opening o)) broken d'
  /-- The opening of a connection fails, or nobody waits for it any more. -/
  | giveUp {held broken d o} : PoolUse held broken d → .opening o ∈ held →
      PoolUse (held.erase (.opening o)) broken d
  | ping {held broken d loan} : PoolUse held broken d → .loan loan ∈ held →
      PoolUse held broken (d.ping loan.connection).2
  /-- A borrower closes the connector's own connection. -/
  | close {held broken d loan} : PoolUse held broken d → .loan loan ∈ held →
      PoolUse held (loan.connection :: broken) (d.close loan.connection)
  | release {held broken d loan} : PoolUse held broken d → .loan loan ∈ held →
      PoolUse (held.erase (.loan loan)) broken (d.release loan)
  | closePool {held broken d} (id) : PoolUse held broken d → PoolUse held broken (d.closePool id)

namespace Custody

variable {history events : List Handling} {held : List Stake} {broken : List ConnectionId} {d : Depot}

private theorem present (h : Custody history held d)
    (hbroken : ∀ c ∈ broken, ∃ p, .opened p c ∈ history) : ∀ c ∈ broken, c < d.connections.size :=
  fun c hc => (h.opened_iff c).mp (hbroken c hc)

/-- What was opened once stays on record. -/
private theorem opened_append (hbroken : ∀ c ∈ broken, ∃ p, .opened p c ∈ history) :
    ∀ c ∈ broken, ∃ p, .opened p c ∈ history ++ events := fun c hc =>
  let ⟨p, hp⟩ := hbroken c hc
  ⟨p, List.mem_append_left _ hp⟩

end Custody

theorem Connection.ping_ok_iff (c : Connection) (s : Store) :
    c.ping s = .ok () ↔ c.closed = false ∧ s.unavailable = false := by
  unfold ping
  cases c.closed <;> cases s.unavailable <;> simp

namespace PoolUse

variable {held : List Stake} {broken : List ConnectionId} {d d' : Depot} {loan : Loan}

/-- Apart from what borrowers closed themselves, there is custody of the connections. -/
theorem custody (h : PoolUse held broken d) : ∃ history d₀, Custody history held d₀ ∧
    d = d₀.spoiled broken ∧ ∀ c ∈ broken, ∃ p, .opened p c ∈ history := by
  induction h with
  | start => exact ⟨[], .empty, .start rfl rfl, (Depot.spoiled_nil _).symm, by simp⟩
  | @stores _ broken _ d' _ hconnections hpools ih =>
      obtain ⟨history, d₀, hcustody, rfl, hbroken⟩ := ih
      refine ⟨history, { d' with connections := d₀.connections }, hcustody.stores rfl hpools, ?_, hbroken⟩
      exact congrArg (fun connections => { d' with connections := connections }) hconnections
  | addPool _ hidle ih =>
      obtain ⟨history, d₀, hcustody, rfl, hbroken⟩ := ih
      exact ⟨history, _, hcustody.addPool hidle, rfl, hbroken⟩
  | borrow _ hid hout ih =>
      obtain ⟨history, d₀, hcustody, rfl, hbroken⟩ := ih
      obtain ⟨d₁, hsame, rfl⟩ := Depot.checkout_of_spoiled (hcustody.present hbroken) hout
      exact ⟨_, d₁, hcustody.checkout hid hsame, rfl, Custody.opened_append hbroken⟩
  | refuse _ hid hout ih =>
      obtain ⟨history, d₀, hcustody, rfl, hbroken⟩ := ih
      obtain ⟨d₁, hsame, rfl⟩ := Depot.checkout_of_spoiled (hcustody.present hbroken) hout
      have hd : d₁ = d₀ := hcustody.checkout hid hsame
      exact ⟨history, d₁, hd ▸ hcustody, rfl, hbroken⟩
  | wait _ ho hout ih =>
      obtain ⟨history, d₀, hcustody, rfl, hbroken⟩ := ih
      obtain ⟨d₁, hsame, rfl⟩ := Depot.checkout_of_spoiled (hcustody.present hbroken) hout
      have hd : d₁ = d₀ := hcustody.checkout ho hsame
      exact ⟨history, d₁, hd ▸ hcustody.await ho, rfl, hbroken⟩
  | finish _ ho hout ih =>
      obtain ⟨history, d₀, hcustody, rfl, hbroken⟩ := ih
      have hcustody := hcustody.perm (List.perm_cons_erase ho)
      obtain ⟨d₁, hsame, rfl⟩ := Depot.finishOpening_of_spoiled (hcustody.present hbroken) hout
      have hlt := hcustody.openings _ List.mem_cons_self
      exact ⟨_, d₁, hcustody.abandon.finishOpening hlt hsame, rfl, Custody.opened_append hbroken⟩
  | giveUp _ ho ih =>
      obtain ⟨history, d₀, hcustody, rfl, hbroken⟩ := ih
      exact ⟨history, d₀, (hcustody.perm (List.perm_cons_erase ho)).abandon, rfl, hbroken⟩
  | ping _ _ ih =>
      obtain ⟨history, d₀, hcustody, rfl, hbroken⟩ := ih
      exact ⟨history, _, hcustody.ping _, Depot.ping_spoiled .., hbroken⟩
  | @close _ broken _ loan _ hloan ih =>
      obtain ⟨history, d₀, hcustody, rfl, hbroken⟩ := ih
      refine ⟨history, d₀, hcustody, Depot.close_eq_spoiled .., List.forall_mem_cons.mpr ⟨?_, hbroken⟩⟩
      exact ⟨loan.pool, hcustody.loans loan hloan⟩
  | release _ hloan ih =>
      obtain ⟨history, d₀, hcustody, rfl, hbroken⟩ := ih
      have hcustody := hcustody.perm (List.perm_cons_erase hloan)
      exact ⟨_, _, hcustody.release, Depot.release_spoiled .., Custody.opened_append hbroken⟩
  | closePool id _ ih =>
      obtain ⟨history, d₀, hcustody, rfl, hbroken⟩ := ih
      exact ⟨_, _, hcustody.closePool id, Depot.closePool_spoiled .., Custody.opened_append hbroken⟩

/-- A connection that is lent is closed if and only if a borrower closed it, and it is one to the store of
the pool that lent it. -/
theorem lent (h : PoolUse held broken d) (hloan : .loan loan ∈ held) :
    ((d.connection loan.connection).closed = true ↔ loan.connection ∈ broken) ∧
      (d.connection loan.connection).store = (d.pool loan.pool).connector.store := by
  obtain ⟨history, d₀, hcustody, rfl, -⟩ := h.custody
  have hopened := hcustody.loans loan hloan
  have hone := hcustody.place hopened
  have hheld : 0 < held.count (.loan ⟨loan.pool, loan.connection⟩) := List.count_pos_iff.mpr hloan
  have hnever : .closed loan.connection ∉ history := List.count_eq_zero.mp (by omega)
  have hopen : (d₀.connection loan.connection).closed = false :=
    Bool.eq_false_iff.mpr fun hclosed => hnever ((hcustody.flag hopened).mp hclosed)
  rw [Depot.connection_spoiled, hopen, Bool.false_or, List.contains_iff_mem]
  exact ⟨Iff.rfl, (hcustody.origin hopened).2⟩

end PoolUse

/-- **Only borrowers close what pools hand out.**  However pools are used, a connection that a pool hands
out, at once or when it was opened, is closed if and only if a borrower closed it itself before.  Trying it
right away succeeds if and only if no borrower did and the store of the pool is available. -/
theorem handed_out_closed_iff {held : List Stake} {broken : List ConnectionId} {d d' : Depot}
    {id : PoolId} {loan : Loan} (h : PoolUse held broken d) (hid : id < d.pools.size)
    (hout : d.checkout id = (.borrowed loan, d') ∨
      ∃ o, .opening o ∈ held ∧ o.pool = id ∧ d.finishOpening id = (.ok loan, d')) :
    ((d'.connection loan.connection).closed = true ↔ loan.connection ∈ broken) ∧
      (d'.connection loan.connection).store = (d'.pool loan.pool).connector.store ∧
      ((d'.ping loan.connection).1 = .ok () ↔ loan.connection ∉ broken ∧
        (d'.store (d'.pool loan.pool).connector.store).unavailable = false) := by
  have hafter : ∃ held', PoolUse (.loan loan :: held') broken d' := by
    rcases hout with hout | ⟨o, ho, rfl, hout⟩
    · exact ⟨_, h.borrow hid hout⟩
    · exact ⟨_, h.finish ho hout⟩
  obtain ⟨held', hafter⟩ := hafter
  obtain ⟨hclosed, hstore⟩ := hafter.lent List.mem_cons_self
  refine ⟨hclosed, hstore, ?_⟩
  rw [← hclosed, ← hstore, Bool.not_eq_true]
  exact Connection.ping_ok_iff _ _

/-- A pool over a new store. -/
private def shop : Depot :=
  ⟨#[Store.new], [], #[], #[.new "p" ⟨0, .plain⟩ none 8]⟩

private theorem poolUse_shop : PoolUse [] [] shop :=
  have hstore : PoolUse [] [] ⟨#[Store.new], [], #[], #[]⟩ := PoolUse.start.stores rfl rfl
  @PoolUse.addPool [] [] _ (.new "p" ⟨0, .plain⟩ none 8) hstore rfl

/-- Of two connections that came back, the pool hands out the one that its borrower did not close. -/
theorem handed_out_closed_iff_last : ∃ d d', PoolUse [] [0] d ∧ d.checkout 0 = (.borrowed ⟨0, 1⟩, d') ∧
    (d'.connection 1).closed = false ∧ (d'.ping 1).1 = .ok () := by
  have hfirst := @PoolUse.borrow _ _ _ _ 0 ⟨0, 0⟩ poolUse_shop (by decide) rfl
  have hsecond := @PoolUse.borrow _ _ _ _ 0 ⟨0, 1⟩ hfirst (by decide) rfl
  have hclosed := @PoolUse.close _ _ _ ⟨0, 0⟩ hsecond (by decide)
  have hback := @PoolUse.release _ _ _ ⟨0, 1⟩ (@PoolUse.release _ _ _ ⟨0, 0⟩ hclosed (by decide)) (by decide)
  obtain ⟨hopen, -, hping⟩ := @handed_out_closed_iff _ _ _ _ 0 ⟨0, 1⟩ hback (by decide) (.inl rfl)
  refine ⟨_, _, hback, rfl, Bool.eq_false_iff.mpr fun h => ?_, hping.mpr ⟨by decide, rfl⟩⟩
  exact absurd (hopen.mp h) (by decide)

/-- A pool over an available store hands out a connection that its borrower closed and gave back, and
trying it fails. -/
theorem closed_handed_out : ∃ d d' loan, PoolUse [] [0] d ∧ (d.pool 0).connector.manner = .plain ∧
    d.checkout 0 = (.borrowed loan, d') ∧ (d'.connection loan.connection).closed = true ∧
    (d'.store (d'.pool loan.pool).connector.store).unavailable = false ∧
    (d'.ping loan.connection).1 = .error (.of "connection to 'memory' is closed") := by
  have hborrowed : PoolUse [.loan ⟨0, 0⟩] [] (shop.checkout 0).2 :=
    @PoolUse.borrow _ _ _ _ 0 ⟨0, 0⟩ poolUse_shop (by decide) rfl
  have hclosed := hborrowed.close List.mem_cons_self
  have hback := hclosed.release List.mem_cons_self
  exact ⟨_, _, ⟨0, 0⟩, hback, rfl, rfl, rfl, rfl, rfl⟩

end ContentEngine
