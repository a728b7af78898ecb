import ContentEngine.Proofs.Lifecycle
import ContentEngine.Proofs.Source.Custody

/-!
# What federations do with connections

The operations of a federation on its pools: what happens to connections in each, and that it keeps
custody of them.  Pools that were closed stay closed.
-/

namespace ContentEngine

/-! ## What happens -/

/-- The connection that was opened for somebody who asked for one. -/
def Borrowing.handlings (b : Borrowing) (d d' : Depot) : List Handling :=
  match b with
  | .done loan => d.lending d' loan
  | .failed _ => []
  | .opening _ _ => []

namespace Federation

/-- What happens when a source is removed. -/
def removing (f : Federation) (d : Depot) (name : String) : List Handling :=
  match Table.get? f.pools name with
  | some pool => .retired pool :: d.closings pool
  | none => []

/-- What happens when a source is registered: the pool that it had is closed, and it has a new one. -/
def installing (f : Federation) (d : Depot) (id : FederationId) (name : String)
    (connector : Connector) (descriptor : Option SourceDescriptor) : List Handling :=
  match (f.install d name connector descriptor).1 with
  | .error _ => []
  | .ok () => f.removing d name ++ [.installed id d.pools.size]

theorem mem_removing {f : Federation} {d : Depot} {name : String} {e : Handling}
    (h : e ∈ f.removing d name) : ∃ old, Table.get? f.pools name = some old ∧
      (e = .retired old ∨ ∃ c, e = .closed c) := by
  unfold removing at h
  split at h
  · rename_i old hold
    rcases List.mem_cons.mp h with heq | h
    · exact ⟨old, hold, .inl heq⟩
    · obtain ⟨c, -, heq⟩ := List.mem_map.mp h
      exact ⟨old, hold, .inr ⟨c, heq.symm⟩⟩
  · cases h

/-- What happens when the federation is shut down. -/
def closing (f : Federation) (d : Depot) : List Handling :=
  if f.state.isClosed then [] else d.closingsOf (f.pools.map Prod.snd)

end Federation

/-- The end of a registration, when the connector is initialized. -/
def Federation.enroll (f : Federation) (d : Depot) (name : String) (connector : Connector)
    (descriptor : Option SourceDescriptor) : Except Fault Unit × Federation × Depot :=
  match f.requireOpen with
  | .error fault => (.error fault, f, d)
  | .ok () =>
    let (pool, d) := d.addPool (.new name connector descriptor f.maxIdle)
    let d :=
      match Table.get? f.pools name with
      | some old => d.closePool old
      | none => d
    (.ok (), { f with pools := Table.insert name pool f.pools }, d)

/-- A source is enrolled once its connector is initialized. -/
theorem Federation.install_eq (f : Federation) (d : Depot) (name : String) (connector : Connector)
    (descriptor : Option SourceDescriptor) :
    f.install d name connector descriptor =
      match d.bind connector ⟨f.engine, name, f.bus⟩ with
      | .error failure => (.error (.connection name failure), f, d)
      | .ok d' => f.enroll d' name connector descriptor :=
  rfl

/-- A connector that is initialized changes stores only. -/
theorem Depot.bind_ok {d d' : Depot} {connector : Connector} {binding : Binding}
    (h : d.bind connector binding = .ok d') :
    d'.connections = d.connections ∧ d'.pools = d.pools := by
  unfold bind at h
  split at h
  · cases h
  · obtain rfl := Except.ok.inj h
    exact ⟨rfl, rfl⟩

/-- A source is enrolled unless the federation is closed. -/
theorem Federation.enroll_cases (f : Federation) (d : Depot) (name : String) (connector : Connector)
    (descriptor : Option SourceDescriptor) :
    (f.state.isClosed = true ∧ ∃ fault, f.enroll d name connector descriptor = (.error fault, f, d)) ∨
    f.state.isClosed = false ∧ f.enroll d name connector descriptor =
      (.ok (), { f with pools := Table.insert name d.pools.size f.pools },
        match Table.get? f.pools name with
        | some old => (d.addPool (.new name connector descriptor f.maxIdle)).2.closePool old
        | none => (d.addPool (.new name connector descriptor f.maxIdle)).2) := by
  unfold enroll requireOpen
  cases f.state.isClosed with
  | true => exact .inl ⟨rfl, _, rfl⟩
  | false => exact .inr ⟨rfl, rfl⟩

/-- A source is registered, or only stores change. -/
theorem Federation.install_cases (f : Federation) (d : Depot) (name : String) (connector : Connector)
    (descriptor : Option SourceDescriptor) :
    (∃ fault, ∃ d' : Depot, f.install d name connector descriptor = (.error fault, f, d') ∧
      d'.connections = d.connections ∧ d'.pools = d.pools) ∨
    ∃ d' : Depot, f.state.isClosed = false ∧ d'.connections = d.connections ∧ d'.pools = d.pools ∧
      f.install d name connector descriptor =
        (.ok (), { f with pools := Table.insert name d.pools.size f.pools },
          match Table.get? f.pools name with
          | some old =>
            (d'.addPool (.new name connector descriptor f.maxIdle)).2.closePool old
          | none => (d'.addPool (.new name connector descriptor f.maxIdle)).2) := by
  rw [f.install_eq]
  cases hbind : d.bind connector ⟨f.engine, name, f.bus⟩ with
  | error failure => exact .inl ⟨_, d, rfl, rfl, rfl⟩
  | ok d' =>
      obtain ⟨hconnections, hpools⟩ := Depot.bind_ok hbind
      rcases f.enroll_cases d' name connector descriptor with ⟨-, fault, herror⟩ | ⟨hopen, hok⟩
      · exact .inl ⟨fault, d', herror, hconnections, hpools⟩
      · rw [hpools] at hok
        exact .inr ⟨d', hopen, hconnections, hpools, hok⟩

theorem install_state (f : Federation) (d : Depot) (name : String) (connector : Connector)
    (descriptor : Option SourceDescriptor) :
    (f.install d name connector descriptor).2.1.state = f.state := by
  rcases f.install_cases d name connector descriptor with ⟨_, _, herror, -⟩ | ⟨_, -, -, -, hok⟩
  · rw [herror]
  · rw [hok]
    rfl

/-- A source that is removed has no pool then, whether or not it had one. -/
theorem Federation.get?_remove (f : Federation) (d : Depot) (name other : String) :
    Table.get? (f.remove d name).2.1.pools other =
      if other = name then none else Table.get? f.pools other := by
  unfold remove
  split
  · exact Table.get?_erase ..
  · rename_i hname
    split
    · rename_i hother
      rw [hother, hname]
    · rfl

theorem Federation.answer_remove (f : Federation) (d : Depot) (name : String) :
    (f.remove d name).1 = (Table.get? f.pools name).isSome := by
  unfold remove
  split <;> simp [*]

/-- The pool of a source that is removed is closed. -/
theorem Federation.depot_remove {f : Federation} {name : String} {p : PoolId}
    (hp : Table.get? f.pools name = some p) (d : Depot) : (f.remove d name).2.2 = d.closePool p := by
  unfold remove
  rw [hp]

theorem Federation.depot_remove_absent {f : Federation} {name : String}
    (hnone : Table.get? f.pools name = none) (d : Depot) : (f.remove d name).2.2 = d := by
  unfold remove
  rw [hnone]

/-- Removing a source changes nothing of the federation but its pools. -/
theorem Federation.remove_federation (f : Federation) (d : Depot) (name : String) :
    (f.remove d name).2.1 = { f with pools := (f.remove d name).2.1.pools } := by
  unfold remove
  split <;> rfl

theorem remove_state (f : Federation) (d : Depot) (name : String) :
    (f.remove d name).2.1.state = f.state := by
  rw [f.remove_federation]
  rfl

/-- A federation that is shut down closes its pools, if it was open. -/
theorem Federation.shutdown_cases (f : Federation) (d : Depot) :
    (f.state.isClosed = true ∧ (f.shutdown d).1 = f ∧ (f.shutdown d).2.1 = d) ∨
      (f.state.isClosed = false ∧ (f.shutdown d).1.pools = f.pools ∧
        (f.shutdown d).1.state.isClosed = true ∧
        (f.shutdown d).2.1 = (f.pools.map Prod.snd).foldl Depot.closePool d) := by
  unfold shutdown state
  cases hstate : f.lifecycle.state.isClosed with
  | true =>
      rw [Lifecycle.beginShutdown_of_closed hstate]
      exact .inl ⟨rfl, rfl, rfl⟩
  | false =>
      have hother := Lifecycle.beginShutdown_of_open hstate
      generalize f.lifecycle.beginShutdown = begun at hother ⊢
      obtain ⟨lifecycle, step⟩ := begun
      cases step with
      | alreadyShuttingDown => exact absurd rfl hother
      | drain => exact .inr ⟨rfl, rfl, rfl, List.foldl_map.symm⟩
      | terminated => exact .inr ⟨rfl, rfl, rfl, List.foldl_map.symm⟩

/-! ## Borrowing -/

/-- What relates the depot before and after asking a pool relates it before and after borrowing. -/
structure Federation.Outlasts (R : Depot → Depot → Prop) : Prop where
  refl : ∀ d, R d d
  trans : ∀ {d d' d''}, R d d' → R d' d'' → R d d''
  checkout : ∀ d p, R d (d.checkout p).2
  finishOpening : ∀ d p, R d (d.finishOpening p).2

namespace Federation.Outlasts

variable {R : Depot → Depot → Prop} (h : Outlasts R) (f : Federation)
include h

private theorem borrowWith {name : String} {last : Bool}
    {refused : Depot → PoolId → Failure → Borrowing × Depot}
    (hrefused : ∀ d p failure, R d (refused d p failure).2) (d : Depot) :
    R d (f.borrowWith d name last refused).2 := by
  unfold Federation.borrowWith
  split
  · exact h.refl d
  split
  · exact h.refl d
  · rename_i pool _
    have hcheckout := h.checkout d pool
    split
    all_goals
      rename_i heq
      rw [heq] at hcheckout
    · exact hcheckout
    · exact h.trans hcheckout (hrefused _ _ _)
    · exact hcheckout

private theorem afterRefusal (d : Depot) (name : String) (pool : PoolId) (failure : Failure) :
    R d (f.afterRefusal name d pool failure).2 := by
  unfold Federation.afterRefusal
  split
  · exact h.borrowWith f (fun d _ _ => h.refl d) d
  · exact h.refl d

theorem borrow (d : Depot) (name : String) : R d (f.borrow d name).2 :=
  h.borrowWith f (fun d => h.afterRefusal f d name) d

theorem resumeBorrow (d : Depot) (o : Opening) : R d (f.resumeBorrow d o).2 := by
  have hopening := h.finishOpening d o.pool
  unfold Federation.resumeBorrow
  split
  · rename_i heq
    rwa [heq] at hopening
  · rename_i heq
    rw [heq] at hopening
    split
    · exact hopening
    · exact h.trans hopening (h.afterRefusal f _ _ _ _)

end Federation.Outlasts

/-! ## Pools that are made and closed -/

/-- What relates the depot before and after pools are made and closed relates it before and after the
sources of a federation change. -/
structure Federation.Survives (R : Depot → Depot → Prop) : Prop where
  of_pools : ∀ {d d' : Depot}, d'.pools = d.pools → R d d'
  trans : ∀ {d d' d''}, R d d' → R d' d'' → R d d''
  closePool : ∀ d p, R d (d.closePool p)
  addPool : ∀ {made : Pool}, made.idle = [] → ∀ d, R d (d.addPool made).2

namespace Federation.Survives

variable {R : Depot → Depot → Prop} (h : Survives R)
include h

theorem closePools (d : Depot) (pools : List PoolId) : R d (pools.foldl Depot.closePool d) := by
  induction pools generalizing d with
  | nil => exact h.of_pools rfl
  | cons id rest ih => exact h.trans (h.closePool d id) (ih _)

variable (f : Federation)

theorem enroll (d : Depot) (name : String) (connector : Connector)
    (descriptor : Option SourceDescriptor) : R d (f.enroll d name connector descriptor).2.2 := by
  rcases f.enroll_cases d name connector descriptor with ⟨-, fault, herror⟩ | ⟨-, hok⟩
  · rw [herror]
    exact h.of_pools rfl
  · rw [hok]
    have hadded : R d (d.addPool (.new name connector descriptor f.maxIdle)).2 := h.addPool rfl d
    cases Table.get? f.pools name with
    | none => exact hadded
    | some old => exact h.trans hadded (h.closePool _ old)

theorem install (d : Depot) (name : String) (connector : Connector)
    (descriptor : Option SourceDescriptor) : R d (f.install d name connector descriptor).2.2 := by
  rw [f.install_eq]
  cases hbind : d.bind connector ⟨f.engine, name, f.bus⟩ with
  | error failure => exact h.of_pools rfl
  | ok d' => exact h.trans (h.of_pools (Depot.bind_ok hbind).2) (h.enroll f d' name connector descriptor)

theorem remove (d : Depot) (name : String) : R d (f.remove d name).2.2 := by
  unfold Federation.remove
  split
  · exact h.closePool d _
  · exact h.of_pools rfl

theorem shutdown (d : Depot) : R d (f.shutdown d).2.1 := by
  rcases f.shutdown_cases d with ⟨-, -, hsame⟩ | ⟨-, -, -, hpools⟩
  · rw [hsame]
    exact h.of_pools rfl
  · rw [hpools]
    exact h.closePools d _

end Federation.Survives

/-! ## Lending -/

/-- Connections are opened, lent and taken back: stores are the same, and so are pools but for what is
idle in them. -/
structure Depot.Lent (d d' : Depot) : Prop where
  stores : d'.stores = d.stores
  names : d'.names = d.names
  size : d'.pools.size = d.pools.size
  pools : ∀ p, ∃ idle, d'.pool p = { d.pool p with idle := idle }

namespace Depot.Lent

variable {d d' d'' : Depot}

theorem refl (d : Depot) : Lent d d :=
  ⟨rfl, rfl, rfl, fun _ => ⟨_, rfl⟩⟩

theorem trans (h : Lent d d') (h' : Lent d' d'') : Lent d d'' where
  stores := h'.stores.trans h.stores
  names := h'.names.trans h.names
  size := h'.size.trans h.size
  pools p := by
    obtain ⟨idle, heq⟩ := h.pools p
    obtain ⟨idle', heq'⟩ := h'.pools p
    exact ⟨idle', by rw [heq', heq]⟩

/-- A change of connections only. -/
theorem of_eq (hstores : d'.stores = d.stores) (hnames : d'.names = d.names)
    (hpools : d'.pools = d.pools) : Lent d d' where
  stores := hstores
  names := hnames
  size := by rw [hpools]
  pools p := ⟨_, by rw [pool, hpools, pool]⟩

theorem modify (id : PoolId) (f : Pool → List ConnectionId) :
    Lent d { d with pools := d.pools.modify id fun p => { p with idle := f p } } where
  stores := rfl
  names := rfl
  size := Array.size_modify
  pools p := by
    rw [d.pool_modify]
    split
    · rename_i hid
      exact ⟨_, by rw [hid.1]⟩
    · exact ⟨_, rfl⟩

theorem release (d : Depot) (loan : Loan) : Lent d (d.release loan) := by
  unfold Depot.release
  split
  · exact modify _ fun p => loan.connection :: p.idle
  · exact of_eq rfl rfl rfl

theorem ping (d : Depot) (c : ConnectionId) : Lent d (d.ping c).2 :=
  of_eq rfl rfl rfl

theorem connect (d : Depot) (connector : Connector) : Lent d (d.connect connector).2 := by
  unfold Depot.connect
  split
  · exact refl d
  · split
    · exact refl d
    · exact of_eq rfl rfl rfl

theorem finishOpening (d : Depot) (id : PoolId) : Lent d (d.finishOpening id).2 := by
  have hconnect := connect d (d.pool id).connector
  unfold Depot.finishOpening
  split
  · rename_i heq
    rwa [heq] at hconnect
  · rename_i heq
    rwa [heq] at hconnect

theorem checkout (d : Depot) (id : PoolId) : Lent d (d.checkout id).2 := by
  unfold Depot.checkout
  dsimp only
  split
  · exact refl d
  split
  · exact modify _ fun _ => _
  split
  · have hopening := finishOpening d id
    split
    · rename_i heq
      rwa [heq] at hopening
    · rename_i heq
      rwa [heq] at hopening
  · exact refl d

/-- Borrowing lends connections, or opens some. -/
theorem outlasts : Federation.Outlasts Lent :=
  ⟨refl, trans, checkout, finishOpening⟩

theorem borrow (f : Federation) (d : Depot) (name : String) : Lent d (f.borrow d name).2 :=
  outlasts.borrow f d name

theorem resumeBorrow (f : Federation) (d : Depot) (o : Opening) : Lent d (f.resumeBorrow d o).2 :=
  outlasts.resumeBorrow f d o

end Depot.Lent

/-! ## Pools stay closed -/

/-- Pools stay, and stay closed. -/
structure Depot.Older (d d' : Depot) : Prop where
  size : d.pools.size ≤ d'.pools.size
  closed : ∀ p, (d.pool p).closed = true → (d'.pool p).closed = true

theorem Depot.Lent.older {d d' : Depot} (h : d.Lent d') : d.Older d' where
  size := Nat.le_of_eq h.size.symm
  closed p hp := by
    obtain ⟨idle, heq⟩ := h.pools p
    rwa [heq]

namespace Depot.Older

variable {d d' d'' : Depot}

theorem trans (h : Older d d') (h' : Older d' d'') : Older d d'' :=
  ⟨Nat.le_trans h.size h'.size, fun p hp => h'.closed p (h.closed p hp)⟩

theorem of_pools (h : d'.pools = d.pools) : Older d d' where
  size := Nat.le_of_eq (by rw [h])
  closed p hp := by rwa [pool, h]

theorem refl (d : Depot) : Older d d :=
  of_pools rfl

theorem closePool (d : Depot) (id : PoolId) : Older d (d.closePool id) where
  size := Nat.le_of_eq (d.pools_size_closePool id).symm
  closed p hp := by
    rw [d.pool_closePool]
    split
    · rfl
    · exact hp

theorem addPool (d : Depot) (p : Pool) : Older d (d.addPool p).2 where
  size := Nat.le_trans (Nat.le_succ _) (Nat.le_of_eq (Array.size_push p).symm)
  closed q hq := by
    have hne : q ≠ d.pools.size := fun heq => by
      rw [d.pool_out (Nat.le_of_eq heq.symm)] at hq
      cases hq
    change ((d.pools.push p).getD q default).closed = true
    rw [System.getD_push, if_neg hne]
    exact hq

theorem survives : Federation.Survives Older :=
  ⟨of_pools, trans, closePool, fun {made} _ d => addPool d made⟩

/-- Each of several pools that are closed is closed after that. -/
theorem closed_of_closePools {pools : List PoolId} {id : PoolId} (h : id ∈ pools)
    (hlt : id < d.pools.size) : ((pools.foldl Depot.closePool d).pool id).closed = true := by
  induction pools generalizing d with
  | nil => cases h
  | cons first rest ih =>
      rcases List.mem_cons.mp h with rfl | h
      · refine (survives.closePools _ rest).closed id ?_
        rw [d.pool_closePool, if_pos ⟨rfl, hlt⟩]
      · exact ih h (Nat.lt_of_lt_of_eq hlt (d.pools_size_closePool first).symm)

theorem install (f : Federation) (d : Depot) (name : String) (connector : Connector)
    (descriptor : Option SourceDescriptor) : Older d (f.install d name connector descriptor).2.2 :=
  survives.install f d name connector descriptor

theorem remove (f : Federation) (d : Depot) (name : String) : Older d (f.remove d name).2.2 :=
  survives.remove f d name

theorem shutdown (f : Federation) (d : Depot) : Older d (f.shutdown d).2.1 :=
  survives.shutdown f d

end Depot.Older

/-! ## Custody -/

namespace Custody

variable {history : List Handling} {held : List Stake} {d : Depot} {f : Federation}

/-- Custody is kept when somebody was answered, who holds what the answer says. -/
def Answered (history : List Handling) (held : List Stake) (d : Depot) (answer : Borrowing × Depot) :
    Prop :=
  Custody (history ++ answer.1.handlings d answer.2) (answer.1.stakes ++ held) answer.2

private theorem answered_failed (h : Custody history held d) (fault : Fault) :
    Answered history held d (.failed fault, d) := by
  change Custody (history ++ []) held d
  rwa [List.append_nil]

private theorem borrowWith {name : String} {last : Bool}
    {refused : Depot → PoolId → Failure → Borrowing × Depot} (h : Custody history held d)
    (hmade : ∀ name p, Table.get? f.pools name = some p → p < d.pools.size)
    (hrefused : ∀ p failure, Answered history held d (refused d p failure)) :
    Answered history held d (f.borrowWith d name last refused) := by
  unfold Federation.borrowWith
  split
  · exact h.answered_failed _
  split
  · exact h.answered_failed _
  · rename_i pool hpool
    have hlt := hmade _ _ hpool
    split
    · rename_i hcheckout
      exact h.checkout hlt hcheckout
    · rename_i failure d' hcheckout
      have hsame : d' = d := h.checkout hlt hcheckout
      rw [hsame]
      exact hrefused _ _
    · rename_i millis d' hcheckout
      have hsame : d' = d := h.checkout hlt hcheckout
      rw [hsame]
      change Custody (history ++ []) (.opening _ :: held) _
      rw [List.append_nil]
      exact h.await hlt

private theorem afterRefusal {name : String} (h : Custody history held d)
    (hmade : ∀ name p, Table.get? f.pools name = some p → p < d.pools.size) (pool : PoolId)
    (failure : Failure) : Answered history held d (f.afterRefusal name d pool failure) := by
  unfold Federation.afterRefusal
  split
  · exact h.borrowWith hmade fun _ _ => h.answered_failed _
  · exact h.answered_failed _

theorem borrow (h : Custody history held d)
    (hmade : ∀ name p, Table.get? f.pools name = some p → p < d.pools.size) (name : String) :
    Answered history held d (f.borrow d name) :=
  h.borrowWith hmade fun p failure => h.afterRefusal hmade p failure

theorem resumeBorrow {o : Opening} (h : Custody history (.opening o :: held) d)
    (hmade : ∀ name p, Table.get? f.pools name = some p → p < d.pools.size) :
    Answered history held d (f.resumeBorrow d o) := by
  have hlt := h.openings o List.mem_cons_self
  have h := h.abandon
  unfold Federation.resumeBorrow
  split
  · rename_i hopening
    exact h.finishOpening hlt hopening
  · rename_i failure d' hopening
    have hsame : d' = d := h.finishOpening hlt hopening
    rw [hsame]
    split
    · exact h.answered_failed _
    · exact h.afterRefusal hmade o.pool _

/-- A source that is registered has a new pool, and the one that it had is closed. -/
theorem install (h : Custody history held d) (id : FederationId) (name : String)
    (connector : Connector) (descriptor : Option SourceDescriptor)
    (hmade : ∀ name p, Table.get? f.pools name = some p → p < d.pools.size) :
    Custody (history ++ f.installing d id name connector descriptor) held
      (f.install d name connector descriptor).2.2 := by
  unfold Federation.installing
  rcases f.install_cases d name connector descriptor with
    ⟨fault, d', herror, hconnections, hpools⟩ | ⟨d', -, hconnections, hpools, hok⟩
  · rw [herror, List.append_nil]
    exact h.stores hconnections hpools
  · rw [hok]
    unfold Federation.removing
    have hadded := (h.stores hconnections hpools).addPool
      (p := .new name connector descriptor f.maxIdle) rfl
    have hnote : ∀ {history d'}, Custody history held d' →
        Custody (history ++ [.installed id d.pools.size]) held d' :=
      fun h => h.note (by simp) (by simp)
    cases hold : Table.get? f.pools name with
    | none => exact hnote hadded
    | some old =>
        have hlt := hmade name old hold
        have hclosings : (d'.addPool (.new name connector descriptor f.maxIdle)).2.closings old =
            d.closings old := by
          change ((d'.pools.push _).getD old default).idle.map _ = _
          rw [System.getD_push, hpools, if_neg (Nat.ne_of_lt hlt)]
          rfl
        have hretired : Custody (history ++ [.retired old]) held _ := hadded.note (by simp) (by simp)
        have hclosed := hretired.closePool old
        rw [hclosings, List.append_assoc] at hclosed
        have hnoted := hnote hclosed
        rwa [List.append_assoc] at hnoted

theorem remove (h : Custody history held d) (name : String) :
    Custody (history ++ f.removing d name) held (f.remove d name).2.2 := by
  unfold Federation.removing Federation.remove
  cases Table.get? f.pools name with
  | none => rwa [List.append_nil]
  | some pool =>
      have hretired : Custody (history ++ [.retired pool]) held d := h.note (by simp) (by simp)
      have hclosed := hretired.closePool pool
      rwa [List.append_assoc] at hclosed

theorem shutdown (h : Custody history held d) :
    Custody (history ++ f.closing d) held (f.shutdown d).2.1 := by
  rcases f.shutdown_cases d with ⟨hclosed, -, hsame⟩ | ⟨hopen, -, -, hpools⟩
  · rw [Federation.closing, if_pos hclosed, hsame, List.append_nil]
    exact h
  · rw [Federation.closing, hopen, hpools]
    exact h.closePools _

end Custody

end ContentEngine
