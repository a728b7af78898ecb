import ContentEngine.Proofs.Source.Dealing

/-!
# What an open pool answers

Somebody who asks an open pool for a connection is given the one in front of those that are idle, or a
new one if none is, and is refused only if the connector opens none.  Taking connections from pools and
closing them leaves those that stay idle in the order in which they were.

## Strategy

`Depot.Answer` says once what comes of asking a pool.  A federation asks the pool of a source at once, or
again when the time has passed that opening takes: both times its answer is one of these if the pool is
open, and a second attempt is never made.
-/

namespace ContentEngine

variable {d d' d'' : Depot} {p : PoolId} {name : String}

/-! ## Answers -/

/-- What comes of asking an open pool for a connection, and the depot then. -/
inductive Depot.Answer (d : Depot) (p : PoolId) (name : String) : Except Fault Loan → Depot → Prop
  /-- The connection that is in front of the idle ones is lent. -/
  | reused {c rest} : (d.pool p).idle = c :: rest →
      Answer d p name (.ok ⟨p, c⟩) { d with pools := d.pools.modify p ({ · with idle := rest }) }
  /-- Exactly one connection is opened, by the connector of the pool. -/
  | opened {connection} : (d.pool p).idle = [] → connection.store = (d.pool p).connector.store →
      connection.closed = false →
      Answer d p name (.ok ⟨p, d.connections.size⟩)
        { d with connections := d.connections.push connection }
  /-- The connector opens no connection. -/
  | refused {failure} : (d.pool p).idle = [] →
      d.connect (d.pool p).connector = (.error failure, d) →
      Answer d p name (.error (.connection name failure)) d

theorem Depot.Answer.pool_of_ok {answer : Except Fault Loan} {loan : Loan}
    (h : d.Answer p name answer d') (hok : answer = .ok loan) : loan.pool = p := by
  cases h with
  | reused hidle => exact (Except.ok.inj hok).symm ▸ rfl
  | opened hidle hstore hclosed => exact (Except.ok.inj hok).symm ▸ rfl
  | refused hidle hconnect => cases hok

/-- Borrowing that has come to its end. -/
def Borrowing.ended : Except Fault Loan → Borrowing
  | .ok loan => .done loan
  | .error fault => .failed fault

/-- A connection is opened, or nothing changes. -/
theorem Depot.finishOpening_cases (d : Depot) (p : PoolId) :
    (∃ connection : Connection, connection.store = (d.pool p).connector.store ∧
      connection.closed = false ∧ d.finishOpening p = (.ok ⟨p, d.connections.size⟩,
        { d with connections := d.connections.push connection })) ∨
    ∃ failure, d.connect (d.pool p).connector = (.error failure, d) ∧
      d.finishOpening p = (.error failure, d) := by
  unfold finishOpening
  split
  · rename_i c d' hconnect
    obtain ⟨rfl, connection, hstore, hclosed, rfl⟩ := connect_ok hconnect
    exact .inl ⟨connection, hstore, hclosed, rfl⟩
  · rename_i failure d' hconnect
    obtain rfl := connect_error hconnect
    exact .inr ⟨failure, hconnect, rfl⟩

namespace Federation

variable {f : Federation}

/-- An open pool that has refused is not asked again. -/
theorem afterRefusal_open (hpool : (d.pool p).closed = false) (failure : Failure) :
    f.afterRefusal name d p failure = (.failed (.connection name failure), d) :=
  if_neg (hpool ▸ Bool.false_ne_true)

theorem resumeBorrow_open (f : Federation) (name : String) (hpool : (d.pool p).closed = false)
    (hidle : (d.pool p).idle = []) :
    ∃ answer d', d.Answer p name answer d' ∧
      f.resumeBorrow d ⟨name, p, false⟩ = (.ended answer, d') := by
  unfold resumeBorrow
  dsimp only
  rcases d.finishOpening_cases p with ⟨connection, hstore, hclosed, hopening⟩ | ⟨failure, hconnect, hopening⟩
  · rw [hopening]
    exact ⟨_, _, .opened hidle hstore hclosed, rfl⟩
  · rw [hopening]
    dsimp only
    rw [if_neg Bool.false_ne_true, afterRefusal_open hpool]
    exact ⟨_, _, .refused hidle hconnect, rfl⟩

/-- A federation answers at once, or when the time has passed that opening a connection takes. -/
theorem borrow_open (hopen : f.state.isClosed = false) (hp : Table.get? f.pools name = some p)
    (hpool : (d.pool p).closed = false) :
    (∃ answer d', d.Answer p name answer d' ∧ f.borrow d name = (.ended answer, d')) ∨
      (d.pool p).idle = [] ∧ ∃ millis, f.borrow d name = (.opening ⟨name, p, false⟩ millis, d) := by
  unfold borrow borrowWith requireOpen
  rw [hopen, if_neg Bool.false_ne_true]
  dsimp only
  rw [hp]
  dsimp only
  unfold Depot.checkout
  dsimp only
  rw [hpool, if_neg Bool.false_ne_true]
  cases hidle : (d.pool p).idle with
  | cons c rest => exact .inl ⟨_, _, .reused hidle, rfl⟩
  | nil =>
      dsimp only
      -- a connection that takes no time is opened at once
      by_cases hdelay : (d.pool p).connector.manner.delay = 0
      · rw [if_pos hdelay]
        refine .inl ?_
        rcases d.finishOpening_cases p with
          ⟨connection, hstore, hclosed, hopening⟩ | ⟨failure, hconnect, hopening⟩
        · rw [hopening]
          exact ⟨_, _, .opened hidle hstore hclosed, rfl⟩
        · rw [hopening]
          exact ⟨_, _, .refused hidle hconnect, afterRefusal_open hpool failure⟩
      · rw [if_neg hdelay]
        exact .inr ⟨rfl, _, rfl⟩

end Federation

/-! ## Idle connections -/

/-- No connection came back to a pool: those that are idle still are in the order in which they were. -/
def Depot.Drawn (d d' : Depot) : Prop :=
  ∀ p, (d'.pool p).idle.Sublist (d.pool p).idle

namespace Depot.Drawn

theorem refl (d : Depot) : Drawn d d :=
  fun _ => .refl _

theorem trans (h : Drawn d d') (h' : Drawn d' d'') : Drawn d d'' :=
  fun p => (h' p).trans (h p)

theorem of_pools (h : d'.pools = d.pools) : Drawn d d' := fun p => by
  rw [pool, h, pool]

theorem modify {f : Pool → Pool} (h : (f (d.pool p)).idle.Sublist (d.pool p).idle) :
    Drawn d { d with pools := d.pools.modify p f } := fun q => by
  rw [d.pool_modify]
  split
  · rename_i hq
    exact hq.1 ▸ h
  · exact .refl _

theorem closePool (d : Depot) (p : PoolId) : Drawn d (d.closePool p) := fun q => by
  rw [d.pool_closePool]
  split
  · exact List.nil_sublist _
  · exact .refl _

/-- A pool that is made has no idle connections. -/
theorem addPool {made : Pool} (h : made.idle = []) (d : Depot) : Drawn d (d.addPool made).2 :=
  fun q => by
    change ((d.pools.push made).getD q default).idle.Sublist _
    rw [System.getD_push]
    split
    · rw [h]
      exact List.nil_sublist _
    · exact .refl _

theorem finishOpening (d : Depot) (p : PoolId) : Drawn d (d.finishOpening p).2 := by
  rcases d.finishOpening_cases p with ⟨connection, -, -, hopening⟩ | ⟨failure, -, hopening⟩
  · rw [hopening]
    exact of_pools rfl
  · rw [hopening]
    exact refl d

theorem checkout (d : Depot) (p : PoolId) : Drawn d (d.checkout p).2 := by
  unfold Depot.checkout
  dsimp only
  split
  · exact refl d
  split
  · rename_i c rest hidle
    exact modify (hidle ▸ List.sublist_cons_self c rest)
  split
  · have hopening := finishOpening d p
    split
    all_goals
      rename_i heq
      rwa [heq] at hopening
  · exact refl d

theorem outlasts : Federation.Outlasts Drawn :=
  ⟨refl, trans, checkout, finishOpening⟩

theorem survives : Federation.Survives Drawn :=
  ⟨of_pools, trans, closePool, addPool⟩

end Depot.Drawn

end ContentEngine
