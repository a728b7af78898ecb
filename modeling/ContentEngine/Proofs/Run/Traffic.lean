import ContentEngine.Proofs.Run.Drain
import ContentEngine.Proofs.Run.Registering

/-!
# What goes on around a federation

While a source is being registered, or a federation shut down, everything else goes on: others register
and remove sources, borrow connections and shut federations down, each of them only part of the way
perhaps, and jobs have their turns.  All of that is `Traffic`.  Whatever it does, pools that were closed
stay closed, and a federation whose shutdown has begun gets no other pools.

## Strategy

`Elapsed` is what is left of a system after any traffic.  It holds after each step of it, and what
changes one federation and the depot is checked by `Elapsed.change`.  Operations that run to their end are
traffic too, since it outlasts all parts of them (`lasting_traffic`).
-/

namespace ContentEngine

variable {s s' s'' : System}

/-! ## Parts of operations -/

/-- Initializes the connector of a source that is being registered. -/
def bindStore (id : FederationId) (name : String) (connector : Connector) :
    InSystem (Except Fault Unit) :=
  modifyGet fun s =>
    match s.depot.bind connector ⟨(s.federation id).engine, name, (s.federation id).bus⟩ with
    | .error failure => (.error (.connection name failure), s)
    | .ok d => (.ok (), s.setDepot d)

/-- A connector is initialized at most, which binds its store. -/
theorem bindStore_cases (id : FederationId) (name : String) (connector : Connector) (s : System) :
    (∃ fault, (bindStore id name connector).run s = (.error fault, s)) ∨
      ∃ d, (bindStore id name connector).run s = (.ok (), s.setDepot d) ∧
        d.connections = s.depot.connections ∧ d.pools = s.depot.pools := by
  have hrun : (bindStore id name connector).run s =
      match s.depot.bind connector ⟨(s.federation id).engine, name, (s.federation id).bus⟩ with
      | .error failure => (.error (.connection name failure), s)
      | .ok d => (.ok (), s.setDepot d) := rfl
  rw [hrun]
  cases hbind : s.depot.bind connector ⟨(s.federation id).engine, name, (s.federation id).bus⟩ with
  | error failure => exact .inl ⟨_, rfl⟩
  | ok d => exact .inr ⟨d, rfl, Depot.bind_ok hbind⟩

/-- Ends the registration of a source whose connector is initialized. -/
def enrollSource (id : FederationId) (name : String) (connector : Connector)
    (descriptor : Option SourceDescriptor) : InSystem (Except Fault Unit) :=
  withFederation id fun f d => f.enroll d name connector descriptor

/-- A source is installed by initializing its connector and enrolling it then. -/
theorem install_run (id : FederationId) (name : String) (connector : Connector)
    (descriptor : Option SourceDescriptor) (s : System) :
    (withFederation id fun f d => f.install d name connector descriptor).run s =
      match (bindStore id name connector).run s with
      | (.error fault, s') => (.error fault, s')
      | (.ok (), s') => (enrollSource id name connector descriptor).run s' := by
  have hrun : (withFederation id fun f d => f.install d name connector descriptor).run s =
      (((s.federation id).install s.depot name connector descriptor).1,
        (s.setFederation id ((s.federation id).install s.depot name connector descriptor).2.1).setDepot
          ((s.federation id).install s.depot name connector descriptor).2.2) := rfl
  have hbind : (bindStore id name connector).run s =
      match s.depot.bind connector ⟨(s.federation id).engine, name, (s.federation id).bus⟩ with
      | .error failure => (.error (.connection name failure), s)
      | .ok d => (.ok (), s.setDepot d) := rfl
  rw [hrun, hbind, Federation.install_eq]
  cases s.depot.bind connector ⟨(s.federation id).engine, name, (s.federation id).bus⟩ with
  | error failure =>
      dsimp only
      rw [s.setFederation_self]
      rfl
  | ok d => rfl

/-- Begins to shut a federation down, and answers what is to be done. -/
def claimClosing (id : FederationId) : InSystem ShutdownStep :=
  modifyGet fun s =>
    match (s.federation id).lifecycle.beginShutdown with
    | (_, .alreadyShuttingDown) => (.alreadyShuttingDown, s)
    | (lifecycle, step) =>
      (step, (s.setFederation id { s.federation id with lifecycle := lifecycle }).addLog
        [.stopping "federation" (s.federation id).engine])

/-- Only one call shuts a federation down. -/
theorem claimClosing_closed {id : FederationId} (hclosed : ¬s.IsOpen id) :
    (claimClosing id).run s = (.alreadyShuttingDown, s) := by
  have hbegun := Lifecycle.beginShutdown_of_closed (l := (s.federation id).lifecycle)
    (eq_true_of_ne_false hclosed)
  change (match (s.federation id).lifecycle.beginShutdown with
    | (_, .alreadyShuttingDown) => _ | (_, _) => _) = _
  rw [hbegun]

theorem claimClosing_open {id : FederationId} (hopen : s.IsOpen id) :
    ((claimClosing id).run s).1 ≠ .alreadyShuttingDown ∧ ((claimClosing id).run s).2 =
      (s.setFederation id { s.federation id with
        lifecycle := (s.federation id).lifecycle.beginShutdown.1 }).addLog
          [.stopping "federation" (s.federation id).engine] := by
  have hother := Lifecycle.beginShutdown_of_open (l := (s.federation id).lifecycle) hopen
  change Prod.fst (match (s.federation id).lifecycle.beginShutdown with
    | (_, .alreadyShuttingDown) => _ | (_, _) => _) ≠ _ ∧ Prod.snd (match
      (s.federation id).lifecycle.beginShutdown with
    | (_, .alreadyShuttingDown) => _ | (_, _) => _) = _
  generalize (s.federation id).lifecycle.beginShutdown = begun at hother ⊢
  obtain ⟨lifecycle, step⟩ := begun
  cases step with
  | alreadyShuttingDown => exact absurd rfl hother
  | drain => exact ⟨nofun, rfl⟩
  | terminated => exact ⟨nofun, rfl⟩

/-- Closes all pools of a federation, which ends its shutdown. -/
def closePools (id : FederationId) : InSystem Unit :=
  withFederation id fun f d =>
    ((), { f with lifecycle := f.lifecycle.markTerminated },
      (f.pools.map Prod.snd).foldl Depot.closePool d)

/-- A system that was reached from the first one by what others do, as far as they have come. -/
inductive Traffic (s : System) : System → Prop
  | rest : Traffic s s
  /-- Whatever has nothing to do with connections and sources. -/
  | calm {t t'} : Traffic s t → Calm t t' → Traffic s t'
  | turn {t} (deadline) : Traffic s t → Traffic s ((turn deadline).run t).2
  | enroll {t} (id name connector descriptor) : Traffic s t →
      Traffic s ((enrollSource id name connector descriptor).run t).2
  | remove {t} (id name) : Traffic s t → Traffic s ((removeSource id name).run t).2
  /-- Connections are opened, lent and taken back. -/
  | lend {t d} : Traffic s t → t.depot.Lent d → Traffic s (t.setDepot d)
  | claim {t} (id) : Traffic s t → Traffic s ((claimClosing id).run t).2
  | close {t} (id) : Traffic s t → ¬t.IsOpen id → Traffic s ((closePools id).run t).2

theorem Traffic.trans (h : Traffic s s') (h' : Traffic s' s'') : Traffic s s'' := by
  induction h' with
  | rest => exact h
  | calm _ hcalm ih => exact ih.calm hcalm
  | turn deadline _ ih => exact ih.turn deadline
  | enroll id name connector descriptor _ ih => exact ih.enroll id name connector descriptor
  | remove id name _ ih => exact ih.remove id name
  | lend _ hlent ih => exact ih.lend hlent
  | claim id _ ih => exact ih.claim id
  | close id _ hclosed ih => exact ih.close id hclosed

/-! ## What traffic leaves -/

variable {id : FederationId}

/-- What is left of a system after some traffic. -/
structure Elapsed (s s' : System) : Prop where
  federations : s.federations.size ≤ s'.federations.size
  depot : s.depot.Older s'.depot
  /-- A federation whose shutdown has begun is not opened again. -/
  shut : ∀ id, ¬s.IsOpen id → ¬s'.IsOpen id
  /-- It gets no other pools. -/
  kept : ∀ id, ¬s.IsOpen id → ∀ name p, s'.pool? id name = some p → s.pool? id name = some p
  made : (∀ id, (s.federation id).Made s.depot) → ∀ id, (s'.federation id).Made s'.depot

namespace Elapsed

theorem refl (s : System) : Elapsed s s :=
  ⟨Nat.le_refl _, .refl _, fun _ h => h, fun _ _ _ _ h => h, fun h => h⟩

theorem trans (h : Elapsed s s') (h' : Elapsed s' s'') : Elapsed s s'' where
  federations := Nat.le_trans h.federations h'.federations
  depot := h.depot.trans h'.depot
  shut id hid := h'.shut id (h.shut id hid)
  kept id hid name p hp := h.kept id hid name p (h'.kept id (h.shut id hid) name p hp)
  made hmade := h'.made (h.made hmade)

theorem of_calm (h : Calm s s') : Elapsed s s' where
  federations := h.federations
  depot := .of_pools h.pools
  shut id hid hopen := hid ((h.isOpen id).mp hopen)
  kept id _ name p hp := by rwa [System.pool?, h.sources] at hp
  made hmade id name p hp := by
    rw [h.sources] at hp
    rw [h.pools]
    exact hmade id name p hp

/-- A change of one federation and of the depot. -/
theorem change {f : Federation} {d : Depot} (hdepot : s.depot.Older d)
    (hshut : ¬s.IsOpen id → f.state.isClosed = true ∧
      ∀ name p, Table.get? f.pools name = some p → s.pool? id name = some p)
    (hmade : (s.federation id).Made s.depot → f.Made d) :
    Elapsed s ((s.setFederation id f).setDepot d) := by
  have hfederation : ∀ other, ((s.setFederation id f).setDepot d).federation other =
      if other = id ∧ id < s.federations.size then f else s.federation other := fun other =>
    s.federation_setFederation id other f
  refine ⟨Nat.le_of_eq Array.size_setIfInBounds.symm, hdepot, fun other hother => ?_,
    fun other hother name p hp => ?_, fun hbefore other => ?_⟩
  · unfold System.IsOpen
    rw [hfederation]
    split
    · rename_i hsame
      rw [(hshut (hsame.1 ▸ hother)).1]
      exact fun hopen => Bool.false_ne_true hopen.symm
    · exact hother
  · rw [System.pool?, hfederation] at hp
    split at hp
    · rename_i hsame
      rw [hsame.1]
      exact (hshut (hsame.1 ▸ hother)).2 name p hp
    · exact hp
  · rw [hfederation]
    split
    · exact hmade (hbefore id)
    · exact fun name p hp => Nat.lt_of_lt_of_le (hbefore other name p hp) hdepot.size

/-- A change of one federation that is closed then, and of pools, if it serves the same sources. -/
private theorem closing {f : Federation} {d : Depot} (hdepot : s.depot.Older d)
    (hclosed : ¬s.IsOpen id → f.state.isClosed = true) (hpools : f.pools = (s.federation id).pools) :
    Elapsed s ((s.setFederation id f).setDepot d) := by
  refine change hdepot (fun hid => ⟨hclosed hid, fun name p hp => ?_⟩) fun hmade name p hp => ?_
  · rwa [hpools] at hp
  · rw [hpools] at hp
    exact Nat.lt_of_lt_of_le (hmade name p hp) hdepot.size

/-- A federation that enrolls a source is open, and serves it from a pool that was made. -/
private theorem made_enroll {f : Federation} {d : Depot} (hmade : f.Made d) (name : String)
    (connector : Connector) (descriptor : Option SourceDescriptor) :
    (f.enroll d name connector descriptor).2.1.Made (f.enroll d name connector descriptor).2.2 := by
  cases hstate : f.state.isClosed with
  | true =>
      obtain ⟨-, _, herror⟩ | ⟨hopen, -⟩ := f.enroll_cases d name connector descriptor
      · rw [herror]
        exact hmade
      · exact absurd (hopen.symm.trans hstate) Bool.false_ne_true
  | false =>
      obtain ⟨d', hok, hinstalled⟩ := Federation.enroll_open name connector descriptor hstate hmade
      rw [hok]
      intro other p hp
      rw [hinstalled.size]
      rw [Table.get?_insert] at hp
      split at hp
      · rw [← Option.some.inj hp]
        exact Nat.lt_succ_self _
      · exact Nat.lt_succ_of_lt (hmade other p hp)

theorem enrollSource (id : FederationId) (name : String) (connector : Connector)
    (descriptor : Option SourceDescriptor) (s : System) :
    Elapsed s ((enrollSource id name connector descriptor).run s).2 := by
  let enrolled := (s.federation id).enroll s.depot name connector descriptor
  have hchange : Elapsed s ((s.setFederation id enrolled.2.1).setDepot enrolled.2.2) := by
    refine change (Depot.Older.survives.enroll _ _ _ _ _) (fun hid => ?_)
      fun hmade => made_enroll hmade name connector descriptor
    obtain ⟨hclosed, _, herror⟩ | ⟨hopen, -⟩ :=
      (s.federation id).enroll_cases s.depot name connector descriptor
    · have hsame : enrolled.2.1 = s.federation id := by rw [show enrolled = _ from herror]
      rw [hsame]
      exact ⟨hclosed, fun _ _ hp => hp⟩
    · exact absurd hopen hid
  exact hchange

theorem removeSource (id : FederationId) (name : String) (s : System) :
    Elapsed s ((removeSource id name).run s).2 := by
  have hpools : ∀ other p, Table.get? ((s.federation id).remove s.depot name).2.1.pools other =
      some p → s.pool? id other = some p := fun other p hp => by
    rw [Federation.get?_remove] at hp
    split at hp
    · cases hp
    · exact hp
  have holder := Depot.Older.remove (s.federation id) s.depot name
  have hstate := remove_state (s.federation id) s.depot name
  have hchange : Elapsed s ((s.setFederation id ((s.federation id).remove s.depot name).2.1).setDepot
      ((s.federation id).remove s.depot name).2.2) :=
    change holder (fun hid => ⟨hstate ▸ eq_true_of_ne_false hid, hpools⟩)
      fun hmade other p hp => Nat.lt_of_lt_of_le (hmade other p (hpools other p hp)) holder.size
  exact hchange

theorem claimClosing (id : FederationId) (s : System) :
    Elapsed s ((claimClosing id).run s).2 := by
  by_cases hopen : s.IsOpen id
  · have hclaimed : Elapsed s ((s.setFederation id { s.federation id with
        lifecycle := (s.federation id).lifecycle.beginShutdown.1 }).setDepot s.depot) :=
      closing (.refl _) (fun _ => Lifecycle.beginShutdown_closed _) rfl
    rw [(claimClosing_open hopen).2]
    exact hclaimed.trans (of_calm (.of_aside (.addLog _ _)))
  · rw [claimClosing_closed hopen]
    exact refl s

theorem closePools (id : FederationId) (s : System) : Elapsed s ((closePools id).run s).2 :=
  closing (Depot.Older.survives.closePools _ _) (fun _ => rfl) rfl

/-- The errand that closes an engine opens no federation again. -/
private theorem shut_runClose (e : EngineId) (hid : ¬s.IsOpen id) :
    ¬System.IsOpen ((runClose e).run s).2 id := by
  rcases runClose_cases e s with ⟨-, heq⟩ | ⟨-, hterminates⟩ | ⟨-, heq⟩
  · rwa [heq]
  · by_cases hown : id = (s.engine e).federation
    · -- the engine's own federation is shut down, if that has not begun yet
      subst hown
      have hmade : (s.engine e).federation < s.federations.size :=
        Decidable.byContradiction fun hge => hid (by
          unfold System.IsOpen
          rw [s.federation_out (Nat.not_lt.mp hge)]
          rfl)
      unfold System.IsOpen at hid ⊢
      rw [hterminates.federation hmade]
      rcases (s.federation (s.engine e).federation).shutdown_cases s.depot with
        ⟨-, hsame, -⟩ | ⟨-, -, hclosed, -⟩
      · rwa [hsame]
      · exact fun hopen => Bool.false_ne_true (hopen.symm.trans hclosed)
    · unfold System.IsOpen
      rwa [hterminates.federations id hown]
  · rwa [heq]

/-- The background opens no federation again. -/
private theorem shut_turn (deadline : Nat) (hid : ¬s.IsOpen id) :
    ¬System.IsOpen ((ContentEngine.turn deadline).run s).2 id := by
  rcases turn_cases deadline s with ⟨-, heq⟩ | ⟨-, moment, -, heq⟩ | ⟨errand, rest, -, heq⟩
  · rwa [heq]
  · rwa [heq]
  rw [heq]
  cases errand with
  | job dispatcher index =>
      have hturn := runJob_turn dispatcher index { s with ready := rest }
      exact fun hopen => hid ((congrArg LifecycleState.isClosed (hturn.state id)).symm.trans hopen)
  | drain dispatcher =>
      change ¬System.IsOpen ((runDrain dispatcher).run { s with ready := rest }).2 id
      unfold System.IsOpen System.federation at hid ⊢
      rwa [(runDrain_turn dispatcher _).federations]
  | close e => exact shut_runClose (s := { s with ready := rest }) e hid

theorem turn (deadline : Nat) (s : System) : Elapsed s ((turn deadline).run s).2 := by
  have hbackground := (Background.enduring s).turn deadline s (.refl s)
  have hpools : ∀ id, (System.federation ((ContentEngine.turn deadline).run s).2 id).pools =
      (s.federation id).pools := fun id => by
    obtain ⟨_, heq⟩ := hbackground.federations id
    rw [heq]
  exact {
    federations := Nat.le_of_eq hbackground.size.symm
    depot := ⟨Nat.le_of_eq hbackground.depot.size.symm, fun p => (hbackground.depot.pools p).closed⟩
    shut := fun id => shut_turn deadline
    kept := fun id _ name p hp => by rwa [System.pool?, hpools] at hp
    made := fun hmade id name p hp => by
      rw [hpools] at hp
      rw [hbackground.depot.size]
      exact hmade id name p hp }

/-- Connections that are opened, lent and taken back. -/
private theorem lend {d : Depot} (h : s.depot.Lent d) : Elapsed s (s.setDepot d) := by
  -- no federation changes, so any will do
  have hchange : Elapsed s ((s.setFederation 0 (s.federation 0)).setDepot d) :=
    closing h.older (fun hid => eq_true_of_ne_false hid) rfl
  rwa [s.setFederation_self] at hchange

end Elapsed

theorem Traffic.elapsed (h : Traffic s s') : Elapsed s s' := by
  induction h with
  | rest => exact .refl s
  | calm _ hcalm ih => exact ih.trans (.of_calm hcalm)
  | turn deadline _ ih => exact ih.trans (.turn deadline _)
  | enroll id name connector descriptor _ ih =>
      exact ih.trans (.enrollSource id name connector descriptor _)
  | remove id name _ ih => exact ih.trans (.removeSource id name _)
  | lend _ hlent ih => exact ih.trans (.lend hlent)
  | claim id _ ih => exact ih.trans (.claimClosing id _)
  | close id _ _ ih => exact ih.trans (.closePools id _)

/-! ## Operations that run to their end -/

/-- A change of stores. -/
theorem Traffic.setDepot {d : Depot} (h : Traffic s s')
    (hsame : d.connections = s'.depot.connections ∧ d.pools = s'.depot.pools) :
    Traffic s (s'.setDepot d) :=
  h.calm ⟨hsame.1, hsame.2, Nat.le_refl _, fun _ => rfl, fun _ => .rfl⟩

theorem Traffic.bindStore (h : Traffic s s') (id : FederationId) (name : String)
    (connector : Connector) : Traffic s ((bindStore id name connector).run s').2 := by
  rcases bindStore_cases id name connector s' with ⟨fault, herror⟩ | ⟨d, hok, hsame⟩
  · rw [herror]
    exact h
  · rw [hok]
    exact h.setDepot hsame

theorem Traffic.outlasts (s : System) : OutlastsActions (Traffic s) where
  lent hlent h := h.lend hlent
  note _ h := h.calm ⟨rfl, rfl, Nat.le_refl _, fun _ => rfl, fun _ => .rfl⟩
  permit _ _ h := h.calm ⟨rfl, rfl, Nat.le_refl _, fun _ => rfl, fun _ => .rfl⟩

/-- That a system was reached by traffic outlasts every operation. -/
theorem lasting_traffic (s : System) : Lasting fun _ t => Traffic s t where
  aside haside h := h.calm (.of_aside haside)
  turn deadline _ _ h := .turn deadline h
  pass _ {_ _} h := h.calm ⟨rfl, rfl, Nat.le_refl _, fun _ => rfl, fun _ => .rfl⟩
  install id name connector descriptor _ t h := by
    have hbound := h.bindStore id name connector
    rw [install_run]
    generalize (bindStore id name connector).run t = bound at hbound ⊢
    obtain ⟨_ | _, t'⟩ := bound
    · exact hbound
    · exact hbound.enroll id name connector descriptor
  remove id name _ _ h := .remove id name h
  request id name _ := (Traffic.outlasts s).ask id fun f d => .borrow f d name
  resume id o _ := (Traffic.outlasts s).ask id fun f d => .resumeBorrow f d o
  abandon h := h
  giveBack loan _ := (Traffic.outlasts s).giveBack (some loan)
  submit id work _ t h := .calm h (calm_submitWork id work t)

end ContentEngine
