import ContentEngine.Proofs.Program.Pieces
import ContentEngine.Proofs.Run.Traffic

/-!
# Sources are registered altogether or not at all

A call to register a source waits for the connector to be initialized, and anything can happen to the
federation meanwhile: the source can be registered by somebody else, it can be removed, and the
federation can be shut down.  If the call fails it has touched no pool.  If not, the source has a new
pool that is open, and the one that it had is closed.  From the beginning of a shutdown on no pool is
added, and after its end all pools are closed that the federation serves its sources from.

## Strategy

The calls are programs in `Pieces`, and there is `Traffic` between any two of them.  What a call did
itself is told by what each of its pieces did (`Pieces.Traced`).  Only the last piece of a registration
touches pools, and it looks once more whether the federation is open.  A shutdown closes the federation
in its first piece, and no pool can slip in before the last one, since traffic adds none from then on.
-/

namespace ContentEngine

variable {s s' s'' : System} {id : FederationId}

/-! ## Calls -/

/-- Registers a source that a connector serves. -/
def installPieces (id : FederationId) (name : String) (connector : Connector)
    (descriptor : Option SourceDescriptor) : Pieces (Except Fault Unit) :=
  .unlessFailed (fromSystem fun s => (s.federation id).requireOpen) fun _ =>
    .unlessFailed (bindStore id name connector) fun _ =>
      .one (enrollSource id name connector descriptor)

/-- Makes the connector of a plan and registers a source that it serves. -/
def buildPieces (id : FederationId) (name : String) (plan : ConnectorPlan)
    (descriptor : Option SourceDescriptor) : Pieces (Except Fault Unit) := do
  let connector ← Pieces.one (withDepot fun d => d.build plan)
  installPieces id name connector descriptor

/-- A call to register a source. -/
inductive Registration where
  /-- The source is described by configuration. -/
  | source (descriptor : SourceDescriptor)
  /-- The source is served by a connector which is handed over. -/
  | connector (name : String) (plan : ConnectorPlan)

namespace Registration

/-- The name of the source. -/
def name : Registration → String
  | source descriptor => descriptor.name
  | connector name _ => name

/-- The descriptor with which the source is registered. -/
def descriptor : Registration → Option SourceDescriptor
  | source descriptor => some descriptor
  | connector _ _ => none

/-- What the call does if nobody interrupts it but while its connector is initialized. -/
def run (id : FederationId) : Registration → InSystem (Except Fault Unit)
  | source descriptor => registerSource id descriptor
  | connector name plan => registerConnector id name plan

/-- The call in pieces. -/
def pieces (id : FederationId) : Registration → Pieces (Except Fault Unit)
  | source descriptor =>
    .unlessFailed (fromSystem fun s => (s.federation id).planFor descriptor) fun plan =>
      buildPieces id descriptor.name plan (some descriptor)
  | connector name plan => buildPieces id name plan none

end Registration

/-- A call to shut a federation down. -/
def closingPieces (id : FederationId) : Pieces Unit := do
  match ← Pieces.one (claimClosing id) with
  | .alreadyShuttingDown => pure ()
  | _ => Pieces.one (closePools id)

/-! ## What becomes of the pools -/

/-- No pool was added, replaced or closed. -/
structure PoolsUntouched (s s' : System) : Prop where
  federations : s'.federations = s.federations
  pools : s'.depot.pools = s.depot.pools
  connections : s'.depot.connections = s.depot.connections

theorem PoolsUntouched.refl (s : System) : PoolsUntouched s s :=
  ⟨rfl, rfl, rfl⟩

theorem PoolsUntouched.calm (h : PoolsUntouched s s') : Calm s s' where
  connections := h.connections
  pools := h.pools
  federations := Nat.le_of_eq (by rw [h.federations])
  sources id := by rw [System.federation, h.federations, System.federation]
  isOpen id := by
    unfold System.IsOpen System.federation
    rw [h.federations]

/-- A federation that is open serves a source from a new pool, which is open.  The pool that the source
had is closed, and no other pool changed. -/
structure Supplanted (id : FederationId) (name : String) (descriptor : Option SourceDescriptor)
    (s s' : System) : Prop where
  before : s.IsOpen id
  after : s'.IsOpen id
  size : s'.depot.pools.size = s.depot.pools.size + 1
  served : s'.pool? id name = some s.depot.pools.size
  fresh : ∃ connector, s'.depot.pool s.depot.pools.size =
    .new name connector descriptor (s.federation id).maxIdle
  opened : (s'.depot.pool s.depot.pools.size).closed = false
  retired : ∀ p, s.pool? id name = some p →
    s'.depot.pool p = { s.depot.pool p with closed := true, idle := [] }
  others : ∀ p, p ≠ s.depot.pools.size → s.pool? id name ≠ some p → s'.depot.pool p = s.depot.pool p
  names : ∀ other, other ≠ name → s'.pool? id other = s.pool? id other
  federations : ∀ other, other ≠ id → s'.federation other = s.federation other

/-- A call to register a source that fails has touched no pool in any of its pieces, and one that
succeeds only in its last piece, where it supplanted the source. -/
def AllOrNothing (id : FederationId) (name : String) (descriptor : Option SourceDescriptor)
    (trace : List (System × System)) : Except Fault Unit → Prop
  | .error _ => ∀ own ∈ trace, PoolsUntouched own.1 own.2
  | .ok () => ∃ earlier s s', trace = earlier ++ [(s, s')] ∧
    (∀ own ∈ earlier, PoolsUntouched own.1 own.2) ∧ Supplanted id name descriptor s s'

section allOrNothing

variable {name : String} {connector : Connector} {descriptor : Option SourceDescriptor}
  {trace : List (System × System)} {answer : Except Fault Unit}

private theorem AllOrNothing.cons (hfirst : PoolsUntouched s s')
    (h : AllOrNothing id name descriptor trace answer) :
    AllOrNothing id name descriptor ((s, s') :: trace) answer := by
  cases answer with
  | error fault => exact List.forall_mem_cons.mpr ⟨hfirst, h⟩
  | ok _ =>
      obtain ⟨earlier, t, t', rfl, hearlier, hsupplanted⟩ := h
      exact ⟨(s, s') :: earlier, t, t', rfl, List.forall_mem_cons.mpr ⟨hfirst, hearlier⟩, hsupplanted⟩

theorem enrollSource_cases (name : String) (connector : Connector) (descriptor : Option SourceDescriptor)
    (hmade : (s.federation id).Made s.depot) (hid : id < s.federations.size) :
    (∃ fault, (enrollSource id name connector descriptor).run s = (.error fault, s)) ∨
      ((enrollSource id name connector descriptor).run s).1 = .ok () ∧
        Supplanted id name descriptor s ((enrollSource id name connector descriptor).run s).2 := by
  have hrun : (enrollSource id name connector descriptor).run s =
      (((s.federation id).enroll s.depot name connector descriptor).1,
        (s.setFederation id ((s.federation id).enroll s.depot name connector descriptor).2.1).setDepot
          ((s.federation id).enroll s.depot name connector descriptor).2.2) := rfl
  rw [hrun]
  cases hstate : (s.federation id).state.isClosed with
  | true =>
      obtain ⟨-, fault, herror⟩ | ⟨hopen, -⟩ :=
        (s.federation id).enroll_cases s.depot name connector descriptor
      · rw [herror, s.setFederation_self]
        exact .inl ⟨fault, rfl⟩
      · exact absurd (hopen.symm.trans hstate) Bool.false_ne_true
  | false =>
      obtain ⟨d', hok, hinstalled⟩ := Federation.enroll_open name connector descriptor hstate hmade
      rw [hok]
      have hpool := System.pool?_insert hid name s.depot.pools.size d'
      refine .inr ⟨rfl, hstate, ?_, hinstalled.size, (hpool name).trans (if_pos rfl),
        ⟨connector, hinstalled.fresh⟩, ?_, hinstalled.retired, hinstalled.others, fun other hother => ?_,
        fun other hother => ?_⟩
      · unfold System.IsOpen
        change ((s.setFederation id _).federation id).state.isClosed = false
        rw [s.federation_setFederation_self hid]
        exact hstate
      · change (d'.pool _).closed = false
        rw [hinstalled.fresh]
        rfl
      · exact (hpool other).trans (if_neg hother)
      · exact (s.federation_setFederation id other _).trans (if_neg fun h => hother h.1)

theorem poolsUntouched_bindStore (id : FederationId) (name : String) (connector : Connector) (s : System) :
    PoolsUntouched s ((bindStore id name connector).run s).2 := by
  rcases bindStore_cases id name connector s with ⟨fault, herror⟩ | ⟨d, hok, hconnections, hpools⟩
  · rw [herror]
    exact .refl s
  · rw [hok]
    exact ⟨rfl, hpools, hconnections⟩

theorem poolsUntouched_build (plan : ConnectorPlan) (s : System) :
    PoolsUntouched s ((withDepot fun d => d.build plan).run s).2 :=
  ⟨rfl, (Depot.Extends.build s.depot plan).pools, (Depot.Extends.build s.depot plan).connections⟩

/-- The federations and pools that a call to register a source comes upon. -/
structure Sound (id : FederationId) (s : System) : Prop where
  made : ∀ f, (s.federation f).Made s.depot
  size : id < s.federations.size

theorem Elapsed.sound (h : Elapsed s s') (hs : Sound id s) : Sound id s' :=
  ⟨h.made hs.made, Nat.lt_of_lt_of_le hs.size h.federations⟩

private theorem AllOrNothing.unlessFailed {α : Type} {x : InSystem (Except Fault α)}
    {f : α → Pieces (Except Fault Unit)} (hx : PoolsUntouched s (x.run s).2)
    (h : (Pieces.unlessFailed x f).Traced Traffic s trace answer s')
    (hrest : ∀ {a t rest}, Traffic (x.run s).2 t → (f a).Traced Traffic t rest answer s' →
      AllOrNothing id name descriptor rest answer) :
    AllOrNothing id name descriptor trace answer := by
  obtain ⟨t, rest, hothers, rfl, hnext⟩ := h.of_first
  refine .cons hx ?_
  cases hanswer : (x.run s).1 with
  | error fault =>
      rw [hanswer] at hnext
      obtain ⟨rfl, rfl, -⟩ := hnext.of_done
      exact fun _ hmem => absurd hmem List.not_mem_nil
  | ok a =>
      rw [hanswer] at hnext
      exact hrest hothers hnext

private theorem installPieces_allOrNothing (hs : Sound id s)
    (h : (installPieces id name connector descriptor).Traced Traffic s trace answer s') :
    AllOrNothing id name descriptor trace answer := by
  refine .unlessFailed (.refl s) h fun {_ t₁ _} hchecked h => ?_
  have hs := hchecked.elapsed.sound hs
  -- while the connector is initialized others may do what they like
  refine .unlessFailed (poolsUntouched_bindStore id name connector t₁) h fun {_ t₂ _} hbound h => ?_
  have hs := ((Traffic.rest.bindStore id name connector).trans hbound).elapsed.sound hs
  obtain ⟨rfl, rfl, -⟩ := h.of_one
  rcases enrollSource_cases name connector descriptor (hs.made id) hs.size with
    ⟨fault, herror⟩ | ⟨hok, hsupplanted⟩
  · rw [herror]
    exact List.forall_mem_singleton.mpr (.refl t₂)
  · rw [hok]
    exact ⟨[], _, _, rfl, fun _ hmem => absurd hmem List.not_mem_nil, hsupplanted⟩

private theorem buildPieces_allOrNothing {plan : ConnectorPlan} (hs : Sound id s)
    (h : (buildPieces id name plan descriptor).Traced Traffic s trace answer s') :
    AllOrNothing id name descriptor trace answer := by
  obtain ⟨t, rest, hothers, rfl, hnext⟩ := h.of_first
  have hbuilt := poolsUntouched_build plan s
  have hs := ((Traffic.rest.calm hbuilt.calm).trans hothers).elapsed.sound hs
  exact .cons hbuilt (installPieces_allOrNothing hs hnext)

theorem Registration.allOrNothing {call : Registration} (hs : Sound id s)
    (h : (call.pieces id).Traced Traffic s trace answer s') :
    AllOrNothing id call.name call.descriptor trace answer := by
  cases call with
  | source d =>
      exact .unlessFailed (.refl s) h fun hothers hnext =>
        buildPieces_allOrNothing (hothers.elapsed.sound hs) hnext
  | connector name plan => exact buildPieces_allOrNothing hs h

end allOrNothing

/-! ## Calls that nobody else interrupts -/

theorem traced_installSource (id : FederationId) (name : String) (connector : Connector)
    (descriptor : Option SourceDescriptor) (s : System) :
    ∃ trace, (installPieces id name connector descriptor).Traced Traffic s trace
      ((installSource id name connector descriptor).run s).1
      ((installSource id name connector descriptor).run s).2 := by
  unfold installSource
  rw [fromSystem_bind]
  cases hopen : (s.federation id).requireOpen with
  | error fault => exact Pieces.traced_failed hopen .rest
  | ok _ =>
      dsimp only
      rw [run_bind, install_run]
      -- while the connector is initialized there is traffic
      have helapsed := (lasting_traffic s).elapse [] connector.manner.delay s .rest
      generalize ((elapse connector.manner.delay).run s).2 = t at helapsed ⊢
      refine Pieces.traced_onward hopen helapsed ?_
      cases hbound : (bindStore id name connector).run t with
      | mk bound t' =>
          have hanswer := congrArg Prod.fst hbound
          have hafter : Traffic ((bindStore id name connector).run t).2 t' := by
            rw [hbound]
            exact .rest
          cases bound with
          | error fault => exact Pieces.traced_failed hanswer hafter
          | ok _ => exact Pieces.traced_onward hanswer hafter ⟨_, .one .rest⟩

private theorem traced_build (id : FederationId) (name : String) (plan : ConnectorPlan)
    (descriptor : Option SourceDescriptor) (s : System) :
    ∃ trace, (buildPieces id name plan descriptor).Traced Traffic s trace
      ((installSource id name (s.depot.build plan).1 descriptor).run
        (s.setDepot (s.depot.build plan).2)).1
      ((installSource id name (s.depot.build plan).1 descriptor).run
        (s.setDepot (s.depot.build plan).2)).2 := by
  obtain ⟨rest, hrest⟩ := traced_installSource id name (s.depot.build plan).1 descriptor
    (s.setDepot (s.depot.build plan).2)
  exact ⟨_, .first .rest hrest⟩

theorem Registration.traced_run (id : FederationId) (call : Registration) (s : System) :
    ∃ trace, (call.pieces id).Traced Traffic s trace ((call.run id).run s).1 ((call.run id).run s).2 := by
  cases call with
  | connector name plan => exact traced_build id name plan none s
  | source descriptor =>
      change ∃ trace, (Pieces.unlessFailed _ _).Traced Traffic s trace
        ((registerSource id descriptor).run s).1 ((registerSource id descriptor).run s).2
      unfold registerSource
      rw [fromSystem_bind]
      cases hplan : (s.federation id).planFor descriptor with
      | error fault => exact Pieces.traced_failed hplan .rest
      | ok plan => exact Pieces.traced_onward hplan .rest (traced_build id _ plan _ s)

/-! ## Shutting down -/

/-- All pools that a federation serves its sources from are closed. -/
def AllClosed (id : FederationId) (s : System) : Prop :=
  ∀ name p, s.pool? id name = some p → (s.depot.pool p).closed = true

theorem Traffic.allClosed (h : Traffic s s') (hclosed : ¬s.IsOpen id) (hs : AllClosed id s) :
    AllClosed id s' := fun name p hp =>
  h.elapsed.depot.closed p (hs name p (h.elapsed.kept id hclosed name p hp))

/-- The first piece of a shutdown closes the federation. -/
private theorem claimClosing_isOpen (hopen : s.IsOpen id) (hs : Sound id s) :
    ¬System.IsOpen ((claimClosing id).run s).2 id := by
  rw [(claimClosing_open hopen).2]
  unfold System.IsOpen
  change ¬((s.setFederation id _).federation id).state.isClosed = false
  rw [s.federation_setFederation_self hs.size]
  exact fun hopen => Bool.false_ne_true
    (hopen.symm.trans (Lifecycle.beginShutdown_closed (s.federation id).lifecycle))

/-- The last piece closes what the federation serves its sources from then. -/
private theorem closePools_allClosed (hs : Sound id s) : AllClosed id ((closePools id).run s).2 := by
  intro name p hp
  have hfederation : (System.federation ((closePools id).run s).2 id).pools =
      (s.federation id).pools := by
    change ((s.setFederation id _).federation id).pools = _
    rw [s.federation_setFederation_self hs.size]
  rw [System.pool?, hfederation] at hp
  exact Depot.Older.closed_of_closePools (List.mem_map_of_mem (Table.mem_of_get? hp))
    (hs.made id name p hp)

theorem closingPieces_allClosed {trace : List (System × System)} {answer : Unit} (hs : Sound id s)
    (hopen : s.IsOpen id) (h : (closingPieces id).Traced Traffic s trace answer s') :
    ¬s'.IsOpen id ∧ AllClosed id s' := by
  obtain ⟨t, rest, hothers, -, hnext⟩ := h.of_first
  obtain ⟨hstep, -⟩ := claimClosing_open hopen
  have hclaimed := (Traffic.rest.claim id).trans hothers
  have ht : ¬t.IsOpen id := hothers.elapsed.shut id (claimClosing_isOpen hopen hs)
  have hlast : (Pieces.one (closePools id)).Traced Traffic t rest answer s' := by
    cases hanswer : ((claimClosing id).run s).1 with
    | alreadyShuttingDown => exact absurd hanswer hstep
    | drain => rwa [hanswer] at hnext
    | terminated => rwa [hanswer] at hnext
  -- what was enrolled until the federation was closed is closed by the last piece
  obtain ⟨-, -, hafter⟩ := hlast.of_one
  have hclosed := (Elapsed.closePools id t).shut id ht
  refine ⟨hafter.elapsed.shut id hclosed, hafter.allClosed hclosed ?_⟩
  exact closePools_allClosed (hclaimed.elapsed.sound hs)

private theorem shutdownFederation_open (hopen : s.IsOpen id) (hs : Sound id s) :
    ((shutdownFederation id).run s).2 = ((closePools id).run ((claimClosing id).run s).2).2 := by
  have hother := Lifecycle.beginShutdown_of_open (l := (s.federation id).lifecycle) hopen
  have hshutdown : (s.federation id).shutdown s.depot =
      ({ s.federation id with
          lifecycle := (s.federation id).lifecycle.beginShutdown.1.markTerminated },
        ((s.federation id).pools.map Prod.snd).foldl Depot.closePool s.depot,
        [.stopping "federation" (s.federation id).engine]) := by
    unfold Federation.shutdown
    generalize (s.federation id).lifecycle.beginShutdown = begun at hother ⊢
    obtain ⟨lifecycle, step⟩ := begun
    rw [List.foldl_map]
    cases step with
    | alreadyShuttingDown => exact absurd rfl hother
    | drain => rfl
    | terminated => rfl
  have hrun : ((shutdownFederation id).run s).2 =
      ((s.setFederation id ((s.federation id).shutdown s.depot).1).setDepot
        ((s.federation id).shutdown s.depot).2.1).addLog ((s.federation id).shutdown s.depot).2.2 := rfl
  rw [hrun, hshutdown, (claimClosing_open hopen).2]
  let claimed : Federation :=
    { s.federation id with lifecycle := (s.federation id).lifecycle.beginShutdown.1 }
  let lines : List LogLine := [.stopping "federation" (s.federation id).engine]
  have hclose : ((closePools id).run ((s.setFederation id claimed).addLog lines)).2 =
      (((s.setFederation id claimed).addLog lines).setFederation id
        { (s.setFederation id claimed).federation id with
          lifecycle := ((s.setFederation id claimed).federation id).lifecycle.markTerminated }).setDepot
        ((((s.setFederation id claimed).federation id).pools.map Prod.snd).foldl
          Depot.closePool s.depot) := rfl
  rw [hclose, s.federation_setFederation_self hs.size]
  unfold System.setFederation System.addLog
  rw [Array.setIfInBounds_setIfInBounds]
  rfl

/-- A shutdown that nobody interrupts. -/
theorem traced_shutdownFederation (hs : Sound id s) :
    ∃ trace, (closingPieces id).Traced Traffic s trace () ((shutdownFederation id).run s).2 := by
  by_cases hopen : s.IsOpen id
  · rw [shutdownFederation_open hopen hs]
    obtain ⟨hstep, -⟩ := claimClosing_open hopen
    have hlast : ∃ rest, (match ((claimClosing id).run s).1 with
        | .alreadyShuttingDown => pure ()
        | _ => Pieces.one (closePools id) : Pieces Unit).Traced Traffic
          ((claimClosing id).run s).2 rest () ((closePools id).run ((claimClosing id).run s).2).2 := by
      cases hanswer : ((claimClosing id).run s).1 with
      | alreadyShuttingDown => exact absurd hanswer hstep
      | drain => exact ⟨_, .one .rest⟩
      | terminated => exact ⟨_, .one .rest⟩
    obtain ⟨rest, hlast⟩ := hlast
    exact ⟨_, .first .rest hlast⟩
  · have hrun : ((shutdownFederation id).run s).2 =
        ((s.setFederation id ((s.federation id).shutdown s.depot).1).setDepot
          ((s.federation id).shutdown s.depot).2.1).addLog ((s.federation id).shutdown s.depot).2.2 := rfl
    have hsame : Traffic s ((shutdownFederation id).run s).2 := by
      obtain ⟨-, hfederation, hdepot⟩ | ⟨hstate, -⟩ := (s.federation id).shutdown_cases s.depot
      · rw [hrun, hfederation, hdepot, s.setFederation_self]
        exact Traffic.rest.calm (.of_aside (.addLog s _))
      · exact absurd hstate hopen
    refine ⟨[(s, ((claimClosing id).run s).2)], .first (by rwa [claimClosing_closed hopen]) ?_⟩
    rw [claimClosing_closed hopen]
    exact .done _ _

/-! ## All or nothing -/

/-- Sources are registered altogether or not at all, and none from the beginning of a shutdown on. -/
theorem registered_or_untouched (h : Traffic .empty s) (hid : id < s.federations.size) :
    (∀ call : Registration,
      (∃ trace, (call.pieces id).Traced Traffic s trace ((call.run id).run s).1
        ((call.run id).run s).2) ∧
      ∀ trace answer s', (call.pieces id).Traced Traffic s trace answer s' →
        AllOrNothing id call.name call.descriptor trace answer) ∧
    (∃ trace, (closingPieces id).Traced Traffic s trace () ((shutdownFederation id).run s).2) ∧
    (¬s.IsOpen id → ∀ s', Traffic s s' → ¬s'.IsOpen id ∧
      ∀ name p, s'.pool? id name = some p → s.pool? id name = some p) ∧
    (s.IsOpen id → ∀ trace s' s'', (closingPieces id).Traced Traffic s trace () s' →
      Traffic s' s'' → ∀ name p, s''.pool? id name = some p → (s''.depot.pool p).closed = true) := by
  have hs : Sound id s := by
    refine ⟨h.elapsed.made fun f name p hp => ?_, hid⟩
    have hnone : System.empty.federation f = default := System.empty.federation_out (Nat.zero_le f)
    rw [hnone] at hp
    cases hp
  refine ⟨fun call => ⟨call.traced_run id s, fun trace answer s' htraced => ?_⟩,
    traced_shutdownFederation hs, fun hclosed s' htraffic => ?_,
    fun hopen trace s' s'' htraced htraffic => ?_⟩
  · exact Registration.allOrNothing hs htraced
  · exact ⟨htraffic.elapsed.shut id hclosed, htraffic.elapsed.kept id hclosed⟩
  · obtain ⟨hclosed, hall⟩ := closingPieces_allClosed hs hopen htraced
    exact htraffic.allClosed hclosed hall

/-- A federation with one source, for which somebody has made another connector. -/
def System.rebuilt : System :=
  ((withDepot fun d => d.build ⟨.own .new, .plain⟩).run .withSource).2

/-- The same after the federation was shut down and the connector was initialized. -/
def System.overtaken : System :=
  ((bindStore 0 "docs" ⟨1, .plain⟩).run ((closePools 0).run ((claimClosing 0).run .rebuilt).2).2).2

/-- Somebody registers a source once more: it is replaced, but not if the federation is shut down while
the connector is initialized. -/
theorem registered_or_untouched_racing :
    ((registerConnector 0 "docs" ⟨.own .new, .plain⟩).run .withSource).1 = .ok () ∧
    (∃ trace, AllOrNothing 0 "docs" none trace (.ok ())) ∧
    ∃ trace s', ((Registration.connector "docs" ⟨.own .new, .plain⟩).pieces 0).Traced Traffic .withSource
        trace (.error (.notRunning "Federation for engine 'engine' is shut down")) s' ∧
      (∀ own ∈ trace, PoolsUntouched own.1 own.2) ∧ s'.pool? 0 "docs" = some 0 ∧
      (s'.depot.pool 0).closed = true := by
  have hsource : Traffic .empty .withSource :=
    (lasting_traffic .empty).registerConnector [] 0 "docs" ⟨.own .new, .plain⟩ _
      (.calm .rest (calm_addFederation "engine" "config" 0 .connectors 2 1 .empty))
  have hid : 0 < System.withSource.federations.size := by decide
  obtain ⟨hcalls, -⟩ := registered_or_untouched hsource hid
  obtain ⟨⟨trace, hwhole⟩, hall⟩ := hcalls (.connector "docs" ⟨.own .new, .plain⟩)
  have hok : ((registerConnector 0 "docs" ⟨.own .new, .plain⟩).run .withSource).1 = .ok () := rfl
  have hreplaced := hall _ _ _ hwhole
  change AllOrNothing 0 "docs" none trace
    ((registerConnector 0 "docs" ⟨.own .new, .plain⟩).run .withSource).1 at hreplaced
  rw [hok] at hreplaced
  refine ⟨hok, ⟨trace, hreplaced⟩, ?_⟩
  -- the pieces of the call, with a shutdown between the second and the third
  let s' := ((enrollSource 0 "docs" ⟨1, .plain⟩ none).run .overtaken).2
  have hbuilt : Traffic ((withDepot fun d => d.build ⟨.own .new, .plain⟩).run .withSource).2 .rebuilt :=
    .rest
  have hopen : ((fromSystem fun s => (s.federation 0).requireOpen).run System.rebuilt).1 = .ok () := rfl
  have hshut : Traffic .rebuilt ((closePools 0).run ((claimClosing 0).run .rebuilt).2).2 :=
    (Traffic.rest.claim 0).close 0 nofun
  have hbound : ((bindStore 0 "docs" ⟨1, .plain⟩).run
      ((closePools 0).run ((claimClosing 0).run .rebuilt).2).2).1 = .ok () := rfl
  have hlast : ∃ rest, (Pieces.one (enrollSource 0 "docs" ⟨1, .plain⟩ none)).Traced Traffic .overtaken rest
      (.error (.notRunning "Federation for engine 'engine' is shut down")) s' :=
    ⟨_, .one .rest⟩
  have hinstalled : ∃ rest, (installPieces 0 "docs" ⟨1, .plain⟩ none).Traced Traffic .rebuilt rest
      (.error (.notRunning "Federation for engine 'engine' is shut down")) s' :=
    Pieces.traced_onward hopen hshut (Pieces.traced_onward hbound Traffic.rest hlast)
  obtain ⟨rest, hrest⟩ := hinstalled
  have htraced : ((Registration.connector "docs" ⟨.own .new, .plain⟩).pieces 0).Traced Traffic .withSource
      ((.withSource, .rebuilt) :: rest)
      (.error (.notRunning "Federation for engine 'engine' is shut down")) s' :=
    .first hbuilt hrest
  exact ⟨_, s', htraced, hall _ _ _ htraced, rfl, rfl⟩

end ContentEngine
