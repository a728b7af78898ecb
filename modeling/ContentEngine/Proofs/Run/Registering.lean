import ContentEngine.Proofs.Run.Background
import ContentEngine.Proofs.Run.Housing

/-!
# Registering and removing sources of a running federation

Registering a source may take time, in which the background goes on.  Then the source is served from a
new pool, or registering it failed and it is served as before; sources of other names are served as
before in any case.  While the federation is open and no engine is closing, its connectors alone decide
whether registering succeeds.

## Strategy

What is known of the pools and of the federation is carried along as `Managed`: from the building of the
connector over the background until the source is installed.
-/

namespace ContentEngine

variable {held : List Stake} {s s' s'' : System} {id : FederationId}

/-! ## Management -/

/-- The pool from which a federation serves a source. -/
def System.pool? (s : System) (id : FederationId) (name : String) : Option PoolId :=
  Table.get? (s.federation id).pools name

theorem System.lt_of_pool? {name : String} {p : PoolId} (h : s.pool? id name = some p) :
    id < s.federations.size := by
  refine Decidable.byContradiction fun hid => ?_
  rw [System.pool?, s.federation_out (Nat.not_lt.mp hid)] at h
  cases h

/-- The pools after a name was given one. -/
theorem System.pool?_insert (hid : id < s.federations.size) (name : String) (p : PoolId) (d : Depot)
    (other : String) :
    ((s.setFederation id { s.federation id with
      pools := Table.insert name p (s.federation id).pools }).setDepot d).pool? id other =
        if other = name then some p else s.pool? id other := by
  change Table.get? ((s.setFederation id _).federation id).pools other = _
  rw [s.federation_setFederation, if_pos ⟨rfl, hid⟩, Table.get?_insert]
  rfl

/-- Only sources of one federation were registered and removed, problems of it were recorded, and the
background went on. -/
structure Managed (id : FederationId) (s s' : System) : Prop where
  buses : s'.buses = s.buses
  federations : s'.federations.size = s.federations.size
  federation : ∀ f, ∃ lifecycle pools problems, s'.federation f =
    { s.federation f with lifecycle := lifecycle, pools := pools, problems := problems }
  others : ∀ f, f ≠ id → (s'.federation f).pools = (s.federation f).pools
  spared : ∀ f, s.Unthreatened f → (s'.federation f).lifecycle = (s.federation f).lifecycle
  engines : s.EnginesRest s'
  size : s.depot.pools.size ≤ s'.depot.pools.size
  pools : ∀ p < s.depot.pools.size, (s.depot.pool p).Tended (s'.depot.pool p)

namespace Managed

theorem refl (id : FederationId) (s : System) : Managed id s s :=
  ⟨rfl, rfl, fun _ => ⟨_, _, _, rfl⟩, fun _ _ => rfl, fun _ _ => rfl, .of_eq rfl, Nat.le_refl _,
    fun _ _ => .refl _⟩

theorem trans (h : Managed id s s') (h' : Managed id s' s'') : Managed id s s'' where
  buses := h'.buses.trans h.buses
  federations := h'.federations.trans h.federations
  federation f := by
    obtain ⟨_, _, _, heq⟩ := h.federation f
    obtain ⟨lifecycle, pools, problems, heq'⟩ := h'.federation f
    exact ⟨lifecycle, pools, problems, by rw [heq', heq]⟩
  others f hf := (h'.others f hf).trans (h.others f hf)
  spared f hf := (h'.spared f (h.engines.unthreatened hf)).trans (h.spared f hf)
  engines := h.engines.trans h'.engines
  size := Nat.le_trans h.size h'.size
  pools p hp := (h.pools p hp).trans (h'.pools p (Nat.lt_of_lt_of_le hp h.size))

theorem of_background (h : Background s s') : Managed id s s' where
  buses := h.buses
  federations := h.size
  federation f := by
    obtain ⟨lifecycle, heq⟩ := h.federations f
    exact ⟨lifecycle, _, _, heq⟩
  others f _ := by
    obtain ⟨_, heq⟩ := h.federations f
    rw [heq]
  spared f hf := by rw [h.spared f hf]
  engines := h.engines
  size := Nat.le_of_eq h.depot.size.symm
  pools p _ := h.depot.pools p

/-- A change of the sources and of pools. -/
theorem of_change {f : Federation} {d : Depot}
    (hf : ∃ pools problems, f = { s.federation id with pools := pools, problems := problems })
    (hsize : s.depot.pools.size ≤ d.pools.size)
    (hpools : ∀ p < s.depot.pools.size, (s.depot.pool p).Tended (d.pool p)) :
    Managed id s ((s.setFederation id f).setDepot d) := by
  obtain ⟨pools, problems, hf⟩ := hf
  have hfederation : ∀ other, ((s.setFederation id f).setDepot d).federation other =
      if other = id ∧ id < s.federations.size then f else s.federation other := fun other =>
    s.federation_setFederation id other f
  refine ⟨rfl, Array.size_setIfInBounds, fun other => ?_, fun other hother => ?_, fun other _ => ?_,
    .of_eq rfl, hsize, hpools⟩
  · rw [hfederation]
    split
    · rename_i hother
      exact ⟨_, pools, problems, by rw [hf, hother.1]⟩
    · exact ⟨_, _, _, rfl⟩
  · rw [hfederation, if_neg fun heq => hother heq.1]
  · rw [hfederation]
    split
    · rename_i hother
      rw [hf, hother.1]
    · rfl

/-- A change of stores. -/
theorem of_stores {d : Depot} (h : d.pools = s.depot.pools) : Managed id s (s.setDepot d) := by
  have hchange : Managed id s ((s.setFederation id (s.federation id)).setDepot d) := by
    refine of_change ⟨_, _, rfl⟩ (Nat.le_of_eq (congrArg Array.size h.symm)) fun p _ => ?_
    rw [Depot.pool, Depot.pool, h]
    exact .refl _
  rwa [s.setFederation_self] at hchange

theorem isOpen (h : Managed id s s') {f : FederationId} (hf : s.Unthreatened f) (hopen : s.IsOpen f) :
    s'.IsOpen f := by
  unfold System.IsOpen Federation.state at hopen ⊢
  rwa [h.spared f hf]

theorem configurationSource (h : Managed id s s') {f : FederationId} :
    (s'.federation f).configurationSource = (s.federation f).configurationSource := by
  obtain ⟨_, _, _, heq⟩ := h.federation f
  rw [heq]

theorem planFor (h : Managed id s s') {f : FederationId} (d : SourceDescriptor) :
    (s'.federation f).planFor d = (s.federation f).planFor d := by
  obtain ⟨_, _, _, heq⟩ := h.federation f
  rw [heq]
  rfl

end Managed

/-! ## Registering -/

/-- A source is served from a new pool with its descriptor, and the pool that it had before is
closed. -/
structure Renewed (id : FederationId) (s s' : System) (d : SourceDescriptor) : Prop where
  served : ∃ p, s'.pool? id d.name = some p ∧ s.depot.pools.size ≤ p ∧
    (s'.depot.pool p).descriptor = some d
  retired : ∀ p, s.pool? id d.name = some p → (s'.depot.pool p).closed = true

/-- What comes of registering a source with a federation that is open: its connector can be made and
initialized, or not. -/
def Federation.registration (f : Federation) (d : SourceDescriptor) : Except Fault Unit :=
  match f.planFor d with
  | .error fault => .error fault
  | .ok plan =>
    match plan.manner.initializeFailure with
    | some failure => .error (.connection d.name failure)
    | none => .ok ()

theorem Managed.registration (h : Managed id s s') {f : FederationId} (d : SourceDescriptor) :
    (s'.federation f).registration d = (s.federation f).registration d := by
  unfold Federation.registration
  rw [h.planFor]

/-- What a registration leaves, given its answer. -/
structure Registering (id : FederationId) (s : System) (d : SourceDescriptor)
    (answer : Except Fault Unit) (s' : System) : Prop where
  managed : Managed id s s'
  others : ∀ name, name ≠ d.name → s'.pool? id name = s.pool? id name
  accepted : answer = .ok () → Renewed id s s' d
  refused : answer ≠ .ok () → s'.pool? id d.name = s.pool? id d.name

/-- A registration that fails. -/
theorem Registering.of_same {d : SourceDescriptor} {fault : Fault} (h : Managed id s s')
    (hpools : (s'.federation id).pools = (s.federation id).pools) :
    Registering id s d (.error fault) s' where
  managed := h
  others name _ := by rw [System.pool?, hpools, System.pool?]
  accepted := nofun
  refused _ := by rw [System.pool?, hpools, System.pool?]

/-- What came before a registration that waited, if it left the sources alone. -/
theorem Registering.after {d : SourceDescriptor} {answer : Except Fault Unit}
    (hmanaged : Managed id s s') (hpools : (s'.federation id).pools = (s.federation id).pools)
    (h : Registering id s' d answer s'') : Registering id s d answer s'' := by
  have hsame : ∀ name, s'.pool? id name = s.pool? id name := fun name => by
    rw [System.pool?, hpools, System.pool?]
  refine ⟨hmanaged.trans h.managed, fun name hname => (h.others name hname).trans (hsame name),
    fun hok => ?_, fun herror => (h.refused herror).trans (hsame d.name)⟩
  obtain ⟨⟨p, hp, hnew, hdescriptor⟩, hretired⟩ := h.accepted hok
  exact ⟨⟨p, hp, Nat.le_trans hmanaged.size hnew, hdescriptor⟩, fun old hold =>
    hretired old ((hsame d.name).trans hold)⟩

private theorem registering_install (h : Trading held s) (hid : id < s.federations.size)
    (d : SourceDescriptor) (connector : Connector) :
    let r := (withFederation id fun f depot => f.install depot d.name connector (some d)).run s
    Registering id s d r.1 r.2 ∧ (s.IsOpen id → r.1 =
      match connector.manner.initializeFailure with
      | some failure => .error (.connection d.name failure)
      | none => .ok ()) := by
  have hhoused := h.housed
  have hrun : ((withFederation id fun f depot => f.install depot d.name connector (some d)).run s) =
      (((s.federation id).install s.depot d.name connector (some d)).1,
        (s.setFederation id ((s.federation id).install s.depot d.name connector (some d)).2.1).setDepot
          ((s.federation id).install s.depot d.name connector (some d)).2.2) := rfl
  dsimp only
  rw [hrun]
  cases hfailure : connector.manner.initializeFailure with
  | some failure =>
      rw [Federation.install_refused hfailure, s.setFederation_self]
      exact ⟨.of_same (.of_stores rfl) rfl, fun _ => rfl⟩
  | none =>
      cases hstate : (s.federation id).state.isClosed with
      | true =>
          obtain ⟨fault, heq⟩ := Federation.install_closed hfailure hstate
          rw [heq, s.setFederation_self]
          exact ⟨.of_same (.of_stores rfl) rfl, fun hopen =>
            nomatch hstate.symm.trans hopen⟩
      | false =>
          obtain ⟨d', heq, hinstalled⟩ := Federation.install_open hfailure hstate (hhoused.made id)
          rw [heq]
          have hsources := System.pool?_insert hid d.name s.depot.pools.size d'
          refine ⟨⟨.of_change ⟨_, _, rfl⟩ ?_ fun p hp => ?_, fun name hname => ?_, fun _ => ?_, ?_⟩,
            fun _ => rfl⟩
          · rw [hinstalled.size]
            exact Nat.le_succ _
          · by_cases hold : Table.get? (s.federation id).pools d.name = some p
            · rw [hinstalled.retired p hold]
              exact ⟨_, _, rfl, fun _ => rfl⟩
            · rw [hinstalled.others p (Nat.ne_of_lt hp) hold]
              exact .refl _
          · rw [hsources, if_neg hname]
          · refine ⟨⟨_, (hsources d.name).trans (if_pos rfl), Nat.le_refl _, ?_⟩, fun old hold => ?_⟩
            · change (d'.pool s.depot.pools.size).descriptor = some d
              rw [hinstalled.fresh]
              rfl
            · change (d'.pool old).closed = true
              rw [hinstalled.retired old hold]
          · exact fun herror => absurd rfl herror

theorem registering_installSource (h : Trading held s) (hid : id < s.federations.size)
    (d : SourceDescriptor) (connector : Connector) :
    let r := (installSource id d.name connector (some d)).run s
    Registering id s d r.1 r.2 ∧ (s.IsOpen id → s.Unthreatened id → r.1 =
      match connector.manner.initializeFailure with
      | some failure => .error (.connection d.name failure)
      | none => .ok ()) := by
  unfold installSource
  rw [fromSystem_bind]
  unfold Federation.requireOpen
  by_cases hclosed : (s.federation id).state.isClosed = true
  · rw [if_pos hclosed]
    exact ⟨.of_same (.refl id s) rfl, fun hopen => nomatch hclosed.symm.trans hopen⟩
  rw [if_neg hclosed]
  dsimp only
  rw [run_bind]
  -- while the connector is initialized the background goes on
  have hbackground : Background s ((elapse connector.manner.delay).run s).2 :=
    (Background.enduring s).elapse _ s (.refl s)
  have hlater := lasting_trading.elapse held connector.manner.delay s h
  generalize ((elapse connector.manner.delay).run s).2 = s₁ at hbackground hlater ⊢
  obtain ⟨hregistering, hanswer⟩ :=
    registering_install hlater (hbackground.size ▸ hid) d connector
  refine ⟨hregistering.after (.of_background hbackground) ?_, fun hopen hid => hanswer ?_⟩
  · obtain ⟨_, heq⟩ := hbackground.federations id
    rw [heq]
  · unfold System.IsOpen at hopen ⊢
    rwa [hbackground.spared id hid]

/-- What comes of registering a source that is described by configuration. -/
theorem registering_registerSource (h : Trading held s) (hid : id < s.federations.size)
    (d : SourceDescriptor) :
    let r := (registerSource id d).run s
    Registering id s d r.1 r.2 ∧
      (s.IsOpen id → s.Unthreatened id → r.1 = (s.federation id).registration d) := by
  unfold registerSource Federation.registration
  rw [fromSystem_bind]
  cases hplan : (s.federation id).planFor d with
  | error fault => exact ⟨.of_same (.refl id s) rfl, fun _ _ => rfl⟩
  | ok plan =>
      dsimp only
      rw [run_bind]
      have hmanner : (s.depot.build plan).1.manner = plan.manner := rfl
      have hpools := (Depot.Extends.build s.depot plan).pools
      have hlater := lasting_trading.build held plan s h
      have hrun : (withDepot fun d => d.build plan).run s =
          ((s.depot.build plan).1, s.setDepot (s.depot.build plan).2) := rfl
      rw [hrun] at hlater ⊢
      obtain ⟨hregistering, hanswer⟩ :=
        registering_installSource hlater hid d (s.depot.build plan).1
      refine ⟨hregistering.after (.of_stores hpools) rfl, fun hopen hid => ?_⟩
      rw [← hmanner]
      exact hanswer hopen hid

/-! ## Removing -/

/-- A source that is removed is not served any more, and its pool is closed.  Other sources are served
as before. -/
structure Removing (id : FederationId) (s : System) (name : String) (answer : Bool) (s' : System) :
    Prop where
  managed : Managed id s s'
  answer_eq : answer = (s.pool? id name).isSome
  others : ∀ other, other ≠ name → s'.pool? id other = s.pool? id other
  removed : s'.pool? id name = none
  retired : ∀ p, s.pool? id name = some p → (s'.depot.pool p).closed = true

theorem removing_removeSource (h : Housed s) (id : FederationId) (name : String) :
    Removing id s name ((removeSource id name).run s).1 ((removeSource id name).run s).2 := by
  have hremoved := Federation.removed (h.made id) name
  have hsources : ∀ other, System.pool? ((removeSource id name).run s).2 id other =
      if other = name then none else s.pool? id other := fun other => by
    unfold System.pool?
    rw [s.federation_removeSource, if_pos rfl, Federation.get?_remove]
  have hmanaged : Managed id s ((s.setFederation id ((s.federation id).remove s.depot name).2.1).setDepot
      ((s.federation id).remove s.depot name).2.2) := by
    refine .of_change ⟨_, _, (s.federation id).remove_federation s.depot name⟩
      (Nat.le_of_eq hremoved.size.symm) fun q _ => ?_
    by_cases hold : Table.get? (s.federation id).pools name = some q
    · rw [hremoved.retired q hold]
      exact ⟨_, _, rfl, fun _ => rfl⟩
    · rw [hremoved.others q hold]
      exact .refl _
  exact ⟨hmanaged, (s.federation id).answer_remove s.depot name,
    fun other hother => (hsources other).trans (if_neg hother), (hsources name).trans (if_pos rfl),
    fun q hq => congrArg Pool.closed (hremoved.retired q hq)⟩

end ContentEngine
