import ContentEngine.Proofs.Source.Dealing

/-!
# Connections are never lost

Whatever is done with the sources of federations, each connection that was opened is idle in the pool
that opened it, or held by one borrower, or was closed once.  Pools that were replaced or removed are
closed, and so are all pools of a federation that was shut down; they hold no connections.

## Strategy

A `Deal` is one operation, as far as it goes without waiting, with what callers hold before and after
it and what happens to connections in it.  `Dealings` are what comes of one deal after another.  They
keep `Custody` of the connections, and know which pools are `Registered`.
-/

namespace ContentEngine

/-! ## Deals -/

/-- The second system differs from the first in nothing that has to do with connections, pools and the
sources of federations. -/
structure Calm (s s' : System) : Prop where
  connections : s'.depot.connections = s.depot.connections
  pools : s'.depot.pools = s.depot.pools
  federations : s.federations.size ≤ s'.federations.size
  sources : ∀ id, (s'.federation id).pools = (s.federation id).pools
  isOpen : ∀ id, s'.IsOpen id ↔ s.IsOpen id

/-- One operation: what callers hold before it, what happens to connections, and what callers hold
then.  What does not wait happens in one step.  Threads may come between: giving a connection back reads
whether the pool is closed before it takes the lock on the idle connections, and if the pool is closed in
between, the connection stays idle in a closed pool.  No deal is cut there. -/
inductive Deal : List Stake → System → List Handling → List Stake → System → Prop
  | calm {held s s'} : Calm s s' → Deal held s [] held s'
  /-- It does not matter in which order stakes are listed. -/
  | order {held s held'} : held.Perm held' → Deal held s [] held' s
  | ping {held s} (c) : Deal held s [] held (s.setDepot (s.depot.ping c).2)
  /-- A pool is made that belongs to no federation. -/
  | addPool {held s p} : p.idle = [] → Deal held s [] held (s.setDepot (s.depot.addPool p).2)
  | install {held s id} (name connector descriptor) : id < s.federations.size →
      Deal held s ((s.federation id).installing s.depot id name connector descriptor) held
        ((withFederation id fun f d => f.install d name connector descriptor).run s).2
  | remove {held s} (id name) :
      Deal held s ((s.federation id).removing s.depot name) held ((removeSource id name).run s).2
  | request {held s} (id name) :
      Deal held s (((requestConnection id name).run s).1.handlings s.depot
          (System.depot ((requestConnection id name).run s).2))
        (((requestConnection id name).run s).1.stakes ++ held) ((requestConnection id name).run s).2
  | resume {held s o} (id) : .opening o ∈ held →
      Deal held s (((s.federation id).resumeBorrow s.depot o).1.handlings s.depot
          ((s.federation id).resumeBorrow s.depot o).2)
        (((s.federation id).resumeBorrow s.depot o).1.stakes ++ held.erase (.opening o))
        ((withFederation id fun f d => ((f.resumeBorrow d o).1, f, (f.resumeBorrow d o).2)).run s).2
  | abandon {held s o} : .opening o ∈ held → Deal held s [] (held.erase (.opening o)) s
  | giveBack {held s loan} : .loan loan ∈ held →
      Deal held s (s.depot.releasing loan) (held.erase (.loan loan))
        ((giveBack (some loan)).run s).2
  | shutdown {held s} (id) :
      Deal held s ((s.federation id).closing s.depot) held ((shutdownFederation id).run s).2

/-- What comes of one deal after another, from the empty system on. -/
inductive Dealings : List Handling → List Stake → System → Prop
  | start : Dealings [] [] .empty
  | deal {history held s events held' s'} : Dealings history held s → Deal held s events held' s' →
      Dealings (history ++ events) held' s'

/-! ## The registry -/

/-- The pools of federations: those that are registered were made, those that were installed are
registered or closed, and those that were retired are closed. -/
structure Registered (history : List Handling) (s : System) : Prop where
  made : ∀ id name p, Table.get? (s.federation id).pools name = some p → p < s.depot.pools.size
  installed : ∀ id p, .installed id p ∈ history →
    (∃ name, Table.get? (s.federation id).pools name = some p) ∨ (s.depot.pool p).closed = true
  retired : ∀ p, .retired p ∈ history → (s.depot.pool p).closed = true
  closed : ∀ id, ¬s.IsOpen id → ∀ name p, Table.get? (s.federation id).pools name = some p →
    (s.depot.pool p).closed = true

section

variable {history events : List Handling} {held held' : List Stake} {s s' : System}

/-- What happens to connections is not that pools are installed or retired. -/
private def OfConnections (events : List Handling) : Prop :=
  ∀ e ∈ events, (∀ id p, e ≠ .installed id p) ∧ ∀ p, e ≠ .retired p

/-- A change that leaves the sources of federations alone. -/
private theorem Registered.same (h : Registered history s) (holder : s.depot.Older s'.depot)
    (hsources : ∀ id, (s'.federation id).pools = (s.federation id).pools)
    (hopen : ∀ id, s'.IsOpen id ↔ s.IsOpen id) (hevents : OfConnections events) :
    Registered (history ++ events) s' where
  made id name p hp := Nat.lt_of_lt_of_le (h.made id name p (hsources id ▸ hp)) holder.size
  installed id p hp := by
    rw [hsources]
    exact (h.installed id p ((List.mem_append.mp hp).resolve_right fun he =>
      (hevents _ he).1 id p rfl)).imp_right (holder.closed p)
  retired p hp := holder.closed p (h.retired p ((List.mem_append.mp hp).resolve_right fun he =>
    (hevents _ he).2 p rfl))
  closed id hclosed name p hp :=
    holder.closed p (h.closed id (fun hbefore => hclosed ((hopen id).mpr hbefore)) name p (hsources id ▸ hp))

private theorem ofConnections_nil : OfConnections [] :=
  fun _ he => absurd he List.not_mem_nil

private theorem ofConnections_opened (pool : PoolId) (c : ConnectionId) :
    OfConnections [.opened pool c] := by
  intro e he
  obtain rfl := List.mem_singleton.mp he
  exact ⟨fun _ _ heq => (nomatch heq), fun _ heq => (nomatch heq)⟩

private theorem ofConnections_closed (cs : List ConnectionId) : OfConnections (cs.map .closed) := by
  intro e he
  obtain ⟨c, -, rfl⟩ := List.mem_map.mp he
  exact ⟨fun _ _ heq => (nomatch heq), fun _ heq => (nomatch heq)⟩

private theorem ofConnections_handlings (b : Borrowing) (d d' : Depot) :
    OfConnections (b.handlings d d') := by
  cases b with
  | done loan =>
      change OfConnections (if _ then _ else _)
      split
      · exact ofConnections_opened loan.pool loan.connection
      · exact ofConnections_nil
  | failed fault => exact ofConnections_nil
  | opening o millis => exact ofConnections_nil

private theorem ofConnections_closingsOf (d : Depot) (pools : List PoolId) :
    OfConnections (d.closingsOf pools) := by
  induction pools generalizing d with
  | nil => exact ofConnections_nil
  | cons pool rest ih =>
      intro e he
      rcases List.mem_append.mp he with he | he
      · exact ofConnections_closed _ e he
      · exact ih _ e he

/-- Changing a federation and the depot. -/
private theorem sources_withFederation {α : Type} (id : FederationId)
    {f : Federation → Depot → α × Federation × Depot}
    (hf : (f (s.federation id) s.depot).2.1.pools = (s.federation id).pools ∧
      (f (s.federation id) s.depot).2.1.state = (s.federation id).state) (other : FederationId) :
    (System.federation ((withFederation id f).run s).2 other).pools = (s.federation other).pools ∧
      (System.IsOpen ((withFederation id f).run s).2 other ↔ s.IsOpen other) := by
  have heq : System.federation ((withFederation id f).run s).2 other =
      if other = id ∧ id < s.federations.size then (f (s.federation id) s.depot).2.1
      else s.federation other := s.federation_setFederation id other _
  unfold System.IsOpen
  rw [heq]
  split
  · rename_i hother
    rw [hother.1, hf.1, hf.2]
    exact ⟨rfl, .rfl⟩
  · exact ⟨rfl, .rfl⟩

/-- Only the federation that a source is removed from changes; one that was never made has none. -/
theorem System.federation_removeSource (s : System) (id other : FederationId) (name : String) :
    System.federation ((removeSource id name).run s).2 other =
      if other = id then ((s.federation id).remove s.depot name).2.1 else s.federation other := by
  refine (s.federation_setFederation id other ((s.federation id).remove s.depot name).2.1).trans ?_
  by_cases hid : id < s.federations.size
  · simp only [hid, and_true]
  · rw [if_neg fun h => hid h.2]
    split
    · rename_i hother
      rw [hother, s.federation_out (Nat.not_lt.mp hid)]
      rfl
    · rfl

/-- A change of the sources of one federation. -/
private theorem Registered.change (h : Registered history s) (id : FederationId)
    (holder : s.depot.Older s'.depot)
    (hothers : ∀ other, other ≠ id → s'.federation other = s.federation other)
    (hmade : ∀ name p, Table.get? (s'.federation id).pools name = some p → p < s'.depot.pools.size)
    (hkept : ∀ name p, Table.get? (s.federation id).pools name = some p →
      (∃ name, Table.get? (s'.federation id).pools name = some p) ∨ (s'.depot.pool p).closed = true)
    (hinstalled : ∀ other p, .installed other p ∈ events →
      other = id ∧ ∃ name, Table.get? (s'.federation id).pools name = some p)
    (hretired : ∀ p, .retired p ∈ events → (s'.depot.pool p).closed = true)
    (hclosed : ¬s'.IsOpen id → ∀ name p, Table.get? (s'.federation id).pools name = some p →
      (s'.depot.pool p).closed = true) :
    Registered (history ++ events) s' where
  made other name p hp := by
    by_cases hother : other = id
    · exact hmade name p (hother ▸ hp)
    · rw [hothers other hother] at hp
      exact Nat.lt_of_lt_of_le (h.made other name p hp) holder.size
  installed other p hp := by
    rcases List.mem_append.mp hp with hp | hp
    · rcases h.installed other p hp with ⟨name, hname⟩ | hp
      · by_cases hother : other = id
        · rw [hother] at hname ⊢
          exact hkept name p hname
        · exact .inl ⟨name, (hothers other hother).symm ▸ hname⟩
      · exact .inr (holder.closed p hp)
    · obtain ⟨rfl, hname⟩ := hinstalled other p hp
      exact .inl hname
  retired p hp := by
    rcases List.mem_append.mp hp with hp | hp
    · exact holder.closed p (h.retired p hp)
    · exact hretired p hp
  closed other hother name p hp := by
    by_cases heq : other = id
    · rw [heq] at hother hp
      exact hclosed hother name p hp
    · rw [hothers other heq] at hp
      refine holder.closed p (h.closed other (fun hopen => hother ?_) name p hp)
      unfold System.IsOpen at hopen ⊢
      rwa [hothers other heq]

private theorem not_installed_of_removing {f : Federation} {d : Depot} {name : String}
    {id : FederationId} {p : PoolId} : .installed id p ∉ f.removing d name := fun he => by
  obtain ⟨_, -, heq | ⟨_, heq⟩⟩ := Federation.mem_removing he <;> cases heq

private theorem get?_of_removing {f : Federation} {d : Depot} {name : String} {p : PoolId}
    (he : .retired p ∈ f.removing d name) : Table.get? f.pools name = some p := by
  obtain ⟨old, hget, heq | ⟨_, heq⟩⟩ := Federation.mem_removing he
  · exact Handling.retired.inj heq ▸ hget
  · cases heq

private theorem Registered.install {id : FederationId} (h : Registered history s)
    (hid : id < s.federations.size) (name : String) (connector : Connector)
    (descriptor : Option SourceDescriptor) :
    Registered (history ++ (s.federation id).installing s.depot id name connector descriptor)
      ((withFederation id fun f d => f.install d name connector descriptor).run s).2 := by
  have holder := Depot.Older.install (s.federation id) s.depot name connector descriptor
  unfold Federation.installing
  rcases (s.federation id).install_cases s.depot name connector descriptor with
    ⟨fault, d', herror, -, -⟩ | ⟨d', hopen, -, hpools, hok⟩
  · have hsame := sources_withFederation id (s := s)
      (f := fun f d => f.install d name connector descriptor) (by rw [herror]; exact ⟨rfl, rfl⟩)
    rw [herror]
    exact h.same holder (fun other => (hsame other).1) (fun other => (hsame other).2) ofConnections_nil
  · have hothers : ∀ other, other ≠ id → System.federation ((withFederation id fun f d =>
        f.install d name connector descriptor).run s).2 other = s.federation other :=
      fun other hother => (s.federation_setFederation id other _).trans (if_neg fun heq => hother heq.1)
    have hself : System.federation ((withFederation id fun f d =>
        f.install d name connector descriptor).run s).2 id =
          ((s.federation id).install s.depot name connector descriptor).2.1 :=
      (s.federation_setFederation id id _).trans (if_pos ⟨rfl, hid⟩)
    have hdepot : System.depot ((withFederation id fun f d =>
        f.install d name connector descriptor).run s).2 =
          ((s.federation id).install s.depot name connector descriptor).2.2 := rfl
    generalize ((withFederation id fun f d => f.install d name connector descriptor).run s).2 = s'
      at hothers hself hdepot ⊢
    rw [← hdepot] at holder
    rw [hok] at hself hdepot ⊢
    dsimp only at hself hdepot ⊢
    have hadded : (d'.addPool (.new name connector descriptor
        (s.federation id).maxIdle)).2.pools.size = s.depot.pools.size + 1 := by
      rw [← hpools]
      exact Array.size_push _
    have hgrown : s'.depot.pools.size = s.depot.pools.size + 1 := by
      rw [hdepot]
      split
      · rw [Depot.pools_size_closePool, hadded]
      · exact hadded
    -- the pool that the source had is closed in the same go
    have hold : ∀ old, Table.get? (s.federation id).pools name = some old →
        (s'.depot.pool old).closed = true := fun old hold => by
      have hlt := Nat.lt_succ_of_lt (h.made id name old hold)
      rw [hdepot, hold]
      dsimp only
      rw [Depot.pool_closePool, if_pos ⟨rfl, hadded.symm ▸ hlt⟩]
    refine h.change id holder hothers (fun n p hp => ?_) (fun n p hp => ?_) (fun other p he => ?_)
      (fun p he => ?_) fun hclosed => absurd ?_ hclosed
    · rw [hself, Table.get?_insert] at hp
      split at hp
      · obtain rfl := Option.some.inj hp
        exact Nat.lt_of_lt_of_eq (Nat.lt_succ_self _) hgrown.symm
      · exact Nat.lt_of_lt_of_le (h.made id n p hp) holder.size
    · by_cases hn : n = name
      · exact .inr (hold p (hn ▸ hp))
      · exact .inl ⟨n, by rw [hself, Table.get?_insert, if_neg hn, hp]⟩
    · have he := (List.mem_append.mp he).resolve_left not_installed_of_removing
      obtain ⟨rfl, rfl⟩ := Handling.installed.inj (List.mem_singleton.mp he)
      exact ⟨rfl, name, by rw [hself, Table.get?_insert_self]⟩
    · rcases List.mem_append.mp he with he | he
      · exact hold p (get?_of_removing he)
      · cases List.mem_singleton.mp he
    · unfold System.IsOpen
      rw [hself]
      exact hopen

private theorem Registered.remove (h : Registered history s) (id : FederationId) (name : String) :
    Registered (history ++ (s.federation id).removing s.depot name)
      ((removeSource id name).run s).2 := by
  have holder := Depot.Older.remove (s.federation id) s.depot name
  have hfederation := fun other => s.federation_removeSource id other name
  have hdepot : System.depot ((removeSource id name).run s).2 =
      ((s.federation id).remove s.depot name).2.2 := rfl
  generalize ((removeSource id name).run s).2 = s' at hfederation hdepot ⊢
  rw [← hdepot] at holder
  have hself := (hfederation id).trans (if_pos rfl)
  have hretired : ∀ p, Table.get? (s.federation id).pools name = some p →
      (s'.depot.pool p).closed = true := fun p hp => by
    rw [hdepot, Federation.depot_remove hp, Depot.pool_closePool, if_pos ⟨rfl, h.made id name p hp⟩]
  have hbefore : ∀ n p, Table.get? (s'.federation id).pools n = some p →
      Table.get? (s.federation id).pools n = some p := fun n p hp => by
    rw [hself, Federation.get?_remove] at hp
    split at hp
    · cases hp
    · exact hp
  refine h.change id holder (fun other hother => (hfederation other).trans (if_neg hother))
    (fun n p hp => ?_) (fun n p hp => ?_) (fun _ _ he => absurd he not_installed_of_removing)
    (fun p he => hretired p (get?_of_removing he)) fun hshut n p hp => ?_
  · exact Nat.lt_of_lt_of_le (h.made id n p (hbefore n p hp)) holder.size
  · by_cases hn : n = name
    · exact .inr (hretired p (hn ▸ hp))
    · exact .inl ⟨n, by rw [hself, Federation.get?_remove, if_neg hn, hp]⟩
  · refine holder.closed p (h.closed id (fun hopen => hshut ?_) n p (hbefore n p hp))
    unfold System.IsOpen at hopen ⊢
    rwa [hself, remove_state]

private theorem Registered.shutdown (h : Registered history s) (id : FederationId) :
    Registered (history ++ (s.federation id).closing s.depot)
      ((shutdownFederation id).run s).2 := by
  have holder := Depot.Older.shutdown (s.federation id) s.depot
  have hfederation : ∀ other, System.federation ((shutdownFederation id).run s).2 other =
      if other = id ∧ id < s.federations.size then ((s.federation id).shutdown s.depot).1
      else s.federation other := fun other => s.federation_setFederation id other _
  have hdepot : System.depot ((shutdownFederation id).run s).2 =
      ((s.federation id).shutdown s.depot).2.1 := rfl
  generalize ((shutdownFederation id).run s).2 = s' at hfederation hdepot ⊢
  rw [← hdepot] at holder
  have hevents : OfConnections ((s.federation id).closing s.depot) := by
    unfold Federation.closing
    split
    · exact ofConnections_nil
    · exact ofConnections_closingsOf _ _
  have hsources : ∀ other, (s'.federation other).pools = (s.federation other).pools := by
    intro other
    rw [hfederation]
    split
    · rename_i hother
      rw [hother.1]
      rcases (s.federation id).shutdown_cases s.depot with ⟨-, hsame, -⟩ | ⟨-, hpools, -, -⟩
      · rw [hsame]
      · exact hpools
    · rfl
  refine h.change id holder (fun other hother => ?_) (fun name p hp => ?_) (fun name p hp => ?_)
    (fun other p he => absurd rfl ((hevents _ he).1 other p))
    (fun p he => absurd rfl ((hevents _ he).2 p)) fun _ name p hp => ?_
  · exact (hfederation other).trans (if_neg fun heq => hother heq.1)
  · exact Nat.lt_of_lt_of_le (h.made id name p (hsources id ▸ hp)) holder.size
  · exact .inl ⟨name, hsources id ▸ hp⟩
  · rw [hsources] at hp
    rcases (s.federation id).shutdown_cases s.depot with ⟨hclosed, -, -⟩ | ⟨-, -, -, hclosed⟩
    · exact holder.closed p (h.closed id (fun hopen => Bool.false_ne_true (hopen.symm.trans hclosed)) name p hp)
    · rw [hdepot, hclosed]
      exact Depot.Older.closed_of_closePools (List.mem_map_of_mem (Table.mem_of_get? hp))
        (h.made id name p hp)

theorem Registered.deal (h : Registered history s) (hdeal : Deal held s events held' s') :
    Registered (history ++ events) s' := by
  cases hdeal with
  | calm hcalm =>
      exact h.same (.of_pools hcalm.pools) hcalm.sources hcalm.isOpen ofConnections_nil
  | order _ => exact h.same (.refl _) (fun _ => rfl) (fun _ => .rfl) ofConnections_nil
  | ping c => exact h.same (.of_pools rfl) (fun _ => rfl) (fun _ => .rfl) ofConnections_nil
  | addPool hidle => exact h.same (.addPool _ _) (fun _ => rfl) (fun _ => .rfl) ofConnections_nil
  | install name connector descriptor hid => exact h.install hid name connector descriptor
  | remove id name => exact h.remove id name
  | request id name =>
      have hsame := fun other => sources_withFederation id (s := s)
        (f := fun f d => ((f.borrow d name).1, f, (f.borrow d name).2)) ⟨rfl, rfl⟩ other
      exact h.same (Depot.Lent.borrow _ s.depot name).older (fun other => (hsame other).1)
        (fun other => (hsame other).2) (ofConnections_handlings _ _ _)
  | @resume o id ho =>
      have hsame := fun other => sources_withFederation id (s := s)
        (f := fun f d => ((f.resumeBorrow d o).1, f, (f.resumeBorrow d o).2)) ⟨rfl, rfl⟩ other
      exact h.same (Depot.Lent.resumeBorrow _ s.depot o).older (fun other => (hsame other).1)
        (fun other => (hsame other).2) (ofConnections_handlings _ _ _)
  | abandon ho => exact h.same (.refl _) (fun _ => rfl) (fun _ => .rfl) ofConnections_nil
  | @giveBack loan hloan =>
      refine h.same (Depot.Lent.release s.depot loan).older (fun _ => rfl) (fun _ => .rfl) ?_
      unfold Depot.releasing
      split
      · exact ofConnections_nil
      · exact ofConnections_closed [loan.connection]
  | shutdown id => exact h.shutdown id

/-! ## Connections are kept -/

/-- Each deal keeps custody of the connections. -/
theorem Custody.deal (h : Custody history held s.depot) (hregistered : Registered history s)
    (hdeal : Deal held s events held' s') : Custody (history ++ events) held' s'.depot := by
  cases hdeal with
  | calm hcalm =>
      rw [List.append_nil]
      exact h.stores hcalm.connections hcalm.pools
  | order hperm =>
      rw [List.append_nil]
      exact h.perm hperm
  | ping c =>
      rw [List.append_nil]
      exact h.ping c
  | addPool hidle =>
      rw [List.append_nil]
      exact h.addPool hidle
  | @install id name connector descriptor _ =>
      exact h.install id name connector descriptor (hregistered.made id)
  | remove id name => exact h.remove name
  | request id name => exact h.borrow (hregistered.made id) name
  | @resume o id ho =>
      exact (h.perm (List.perm_cons_erase ho)).resumeBorrow (hregistered.made id)
  | abandon ho =>
      rw [List.append_nil]
      exact (h.perm (List.perm_cons_erase ho)).abandon
  | giveBack hloan => exact (h.perm (List.perm_cons_erase hloan)).release
  | shutdown id => exact h.shutdown

theorem Dealings.custody (h : Dealings history held s) :
    Custody history held s.depot ∧ Registered history s := by
  induction h with
  | start =>
      refine ⟨.start rfl rfl, fun id name p hp => ?_, by simp, by simp, fun id _ name p hp => ?_⟩
      all_goals cases hp
  | deal _ hdeal ih => exact ⟨ih.1.deal ih.2 hdeal, ih.2.deal hdeal⟩

end

end ContentEngine
