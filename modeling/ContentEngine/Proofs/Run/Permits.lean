import ContentEngine.Proofs.Run.Boot

/-!
# The answers of building an engine

What building an engine answers is known beforehand.  Settings that are not valid are refused, and so is
a configuration source that cannot be initialized.  Otherwise an engine is built, whatever is configured
in its tree, unless the pool of its dispatcher is larger than a dispatcher can have: then building breaks
down.  Valid settings may ask for such a pool (`build_too_large`).

## Strategy

The federation that is made for the engine is nobody else's, so it is still open when the connector of the
configuration source was initialized, however long that took.  From there on nothing can fail but the
dispatcher.
-/

namespace ContentEngine

variable {direct : FederationId → Prop} {s : System} {id : FederationId}

/-! ## The configuration source -/

/-- What comes of handing over the first source of a federation: it is served, or its connector could not
be initialized. -/
structure Handing (id : FederationId) (name : String) (s : System) (failure : Option Failure)
    (answer : Except Fault Unit) (s' : System) : Prop where
  refused : ∀ f, failure = some f → answer = .error (.connection name f)
  accepted : failure = none → answer = .ok () ∧ (s'.pool? id name).isSome
  configurationSource :
    (s'.federation id).configurationSource = (s.federation id).configurationSource

theorem handing_install (hid : id < s.federations.size) (hopen : s.IsOpen id)
    (hpools : (s.federation id).pools = []) (name : String) (connector : Connector) :
    let r := (withFederation id fun f d => f.install d name connector none).run s
    Handing id name s connector.manner.initializeFailure r.1 r.2 := by
  have hrun : (withFederation id fun f d => f.install d name connector none).run s =
      (((s.federation id).install s.depot name connector none).1,
        (s.setFederation id ((s.federation id).install s.depot name connector none).2.1).setDepot
          ((s.federation id).install s.depot name connector none).2.2) := rfl
  dsimp only
  rw [hrun]
  cases hfailure : connector.manner.initializeFailure with
  | some failure =>
      rw [Federation.install_refused hfailure, s.setFederation_self]
      refine ⟨fun f hf => ?_, nofun, rfl⟩
      rw [Option.some.inj hf]
  | none =>
      have hmade : (s.federation id).Made s.depot := by
        intro other p hp
        rw [hpools] at hp
        exact nomatch hp
      obtain ⟨d', hinstall, -⟩ :=
        @Federation.install_open (s.federation id) s.depot name connector none hfailure hopen hmade
      rw [hinstall]
      refine ⟨nofun, fun _ => ⟨rfl, ?_⟩, ?_⟩
      · rw [System.pool?_insert hid name s.depot.pools.size d', if_pos rfl]
        rfl
      · change ((s.setFederation id _).federation id).configurationSource = _
        rw [s.federation_setFederation_self hid]

/-- However long its connector takes, the federation is open then. -/
theorem handing_installSource (hid : id < s.federations.size) (hopen : s.IsOpen id)
    (hun : s.Unthreatened id) (hpools : (s.federation id).pools = []) (name : String)
    (connector : Connector) :
    let r := (installSource id name connector none).run s
    Handing id name s connector.manner.initializeFailure r.1 r.2 := by
  have hstate : (s.federation id).state.isClosed = false := hopen
  dsimp only
  unfold installSource
  rw [fromSystem_bind, Federation.requireOpen, hstate, if_neg Bool.false_ne_true]
  dsimp only
  rw [run_bind]
  have hbackground : Background s ((elapse connector.manner.delay).run s).2 :=
    (Background.enduring s).elapse _ s (.refl s)
  generalize ((elapse connector.manner.delay).run s).2 = s₁ at hbackground ⊢
  have hspared : s₁.federation id = s.federation id := hbackground.spared id hun
  have hhanding := handing_install (s := s₁) (hbackground.size ▸ hid)
    (by rwa [System.IsOpen, hspared]) (hspared ▸ hpools) name connector
  exact ⟨hhanding.refused, hhanding.accepted, hspared ▸ hhanding.configurationSource⟩

theorem handing_registerConnector (hid : id < s.federations.size) (hopen : s.IsOpen id)
    (hun : s.Unthreatened id) (hpools : (s.federation id).pools = []) (name : String)
    (plan : ConnectorPlan) :
    let r := (registerConnector id name plan).run s
    Handing id name s plan.manner.initializeFailure r.1 r.2 := by
  have hrun : (withDepot fun d => d.build plan).run s =
      ((s.depot.build plan).1, s.setDepot (s.depot.build plan).2) := rfl
  dsimp only
  unfold registerConnector
  rw [run_bind, hrun]
  have hhanding := handing_installSource (s := s.setDepot (s.depot.build plan).2) hid hopen hun hpools
    name (s.depot.build plan).1
  exact ⟨hhanding.refused, hhanding.accepted, hhanding.configurationSource⟩

/-! ## The dispatcher -/

/-- With a pool that is too large no engine is made. -/
theorem buildOn_too_large {b : Blueprint}
    (hpool : Dispatcher.permitLimit < b.settings.dispatcher.poolSize) (root : NodePath) (bus : BusId)
    (federation : FederationId) (graph : Graph) (s : System) :
    ((buildOn b root bus federation graph).run s).1 = .error .tooManyPermits := by
  refine (?_ : Ensures (fun _ => True) (buildOn b root bus federation graph)
    fun answer _ => answer = .error .tooManyPermits) s trivial
  unfold buildOn
  refine .seq (R := fun _ _ => True) (fun _ _ => trivial) fun scan => ?_
  refine .seq (R := fun _ _ => True) (fun _ _ => trivial) fun applied => ?_
  refine .seq (R := fun _ _ => True) (fun _ _ => trivial) fun observer => ?_
  have hnone : Dispatcher.new? b.settings.id federation b.settings.dispatcher.poolSize
      b.settings.problemCapacity = none := by
    rw [Dispatcher.new?, if_pos hpool]
  rw [hnone]
  exact .answer fun _ _ => rfl

/-! ## The answer -/

namespace Blueprint

/-- The system where the bus and the federation of an engine were made. -/
def grounds (b : Blueprint) (s : System) : System :=
  ((addFederation (.new b.settings.id b.settings.configurationSource s.buses.size b.connectors
    b.settings.federation.maxIdlePerSource b.settings.problemCapacity)).run
      ((addBus (.new b.settings.id b.settings.problemCapacity)).run s).2).2

theorem federation_grounds (b : Blueprint) (s : System) :
    (b.grounds s).federation s.federations.size = .new b.settings.id b.settings.configurationSource
      s.buses.size b.connectors b.settings.federation.maxIdlePerSource b.settings.problemCapacity :=
  (System.getD_push ..).trans (if_pos rfl)

/-- The new federation is nobody else's. -/
theorem building_grounds (b : Blueprint) (h : Reachable direct s) :
    Building direct s.federations.size (b.grounds s) := by
  have hbus : Reachable direct ((addBus (.new b.settings.id b.settings.problemCapacity)).run s).2 :=
    h.run (.step .start (.quiet (.of_eq rfl rfl rfl rfl rfl rfl rfl rfl)))
  exact building_addFederation hbus rfl

/-- What is built there: the configuration source is handed over, and the rest is made. -/
def raise (b : Blueprint) (root : NodePath) (bus : BusId) (federation : FederationId) :
    InSystem (Except BuildFailure EngineId) := do
  match ← registerConnector federation b.settings.configurationSource b.plan with
  | .error fault => pure (.error (.refused fault))
  | .ok () =>
    match ← Repository.configurationGraph ⟨federation, root, b.settings.workspace⟩ with
    | .error fault => pure (.error (.refused fault))
    | .ok graph => buildOn b root bus federation graph

end Blueprint

/-- With valid settings an engine is built on its grounds. -/
theorem buildEngine_run {b : Blueprint} {root : NodePath} (hvalid : b.settings.validate = .ok ())
    (hroot : b.settings.configurationRoot = .ok root) (s : System) :
    (buildEngine b).run s =
      (b.raise root s.buses.size s.federations.size).run (b.grounds s) := by
  unfold buildEngine
  dsimp only
  rw [hvalid, hroot]
  rfl

/-- The answer of building an engine, given its blueprint. -/
structure BuildAnswer (b : Blueprint) (answer : Except BuildFailure EngineId) : Prop where
  invalid : ∀ fault, b.settings.validate = .error fault → answer = .error (.refused fault)
  refused : b.settings.validate = .ok () → ∀ failure, b.plan.manner.initializeFailure = some failure →
    answer = .error (.refused (.connection b.settings.configurationSource failure))
  built : b.settings.validate = .ok () → b.plan.manner.initializeFailure = none →
    b.settings.dispatcher.poolSize ≤ Dispatcher.permitLimit → ∃ engine, answer = .ok engine
  tooLarge : b.settings.validate = .ok () → b.plan.manner.initializeFailure = none →
    Dispatcher.permitLimit < b.settings.dispatcher.poolSize → answer = .error .tooManyPermits

/-- **What building an engine answers.** -/
theorem build_answered (h : Reachable direct s) (b : Blueprint) :
    BuildAnswer b ((buildEngine b).run s).1 := by
  cases hvalid : b.settings.validate with
  | error fault =>
      have hanswer : ((buildEngine b).run s).1 = .error (.refused fault) := by
        unfold buildEngine
        dsimp only
        rw [hvalid]
        rfl
      have hnot : b.settings.validate ≠ .ok () := by
        rw [hvalid]
        exact nofun
      refine ⟨fun f hf => ?_, fun h => absurd h hnot, fun h => absurd h hnot, fun h => absurd h hnot⟩
      rw [hanswer, Except.error.inj (hvalid.symm.trans hf)]
  | ok _ =>
      obtain ⟨root, hroot⟩ := Settings.configurationRoot_of_validate hvalid
      have hbuilding := b.building_grounds h
      have hself := b.federation_grounds s
      have hopen : (b.grounds s).IsOpen s.federations.size := by
        rw [System.IsOpen, hself]
        rfl
      have hpools : ((b.grounds s).federation s.federations.size).pools = [] := by
        rw [hself]
        rfl
      have hhanding := handing_registerConnector hbuilding.made hopen hbuilding.unthreatened hpools
        b.settings.configurationSource b.plan
      have hsource : ((b.grounds s).federation s.federations.size).configurationSource =
          b.settings.configurationSource := by
        rw [hself]
        rfl
      rw [buildEngine_run hvalid hroot, Blueprint.raise, run_bind]
      generalize (registerConnector s.federations.size b.settings.configurationSource b.plan).run
        (b.grounds s) = registered at hhanding ⊢
      obtain ⟨answer, s₁⟩ := registered
      have hname := hhanding.configurationSource.trans hsource
      refine ⟨fun f hf => ?_, fun _ failure hfailure => ?_, fun _ hnone hpool => ?_,
        fun _ hnone hpool => ?_⟩
      · rw [hvalid] at hf
        cases hf
      · obtain rfl := hhanding.refused failure hfailure
        rfl
      · obtain ⟨rfl, hserved⟩ := hhanding.accepted hnone
        dsimp only
        rw [run_bind, configurationGraph_run hname hserved]
        obtain ⟨engine, hbuilt, -⟩ := buildOn_assembled b root s.buses.size hpool s.federations.size
          ⟨s.federations.size, b.settings.configurationSource, b.settings.workspace⟩ s₁
        exact ⟨engine, hbuilt⟩
      · obtain ⟨rfl, hserved⟩ := hhanding.accepted hnone
        dsimp only
        rw [run_bind, configurationGraph_run hname hserved]
        exact buildOn_too_large hpool root s.buses.size s.federations.size _ s₁

/-! ### Large pools -/

/-- A blueprint of an engine without plugins, with a pool of the given size. -/
def Blueprint.ofPool (poolSize : Nat) : Blueprint where
  settings := { Settings.default "engine" with dispatcher := ⟨poolSize, 30000⟩ }
  configuration := none
  connectors := .connectors
  processors := .processors
  detectors := .detectors

/-- An engine with the largest pool is built. -/
theorem build_answered_largest :
    Reachable (fun _ => True) .empty ∧
      (Blueprint.ofPool 2305843009213693951).settings.validate = .ok () ∧
      ∃ engine, ((buildEngine (.ofPool 2305843009213693951)).run .empty).1 = .ok engine := by
  have hreachable : Reachable (fun _ => True) .empty := ⟨[], .start⟩
  have hvalid : (Blueprint.ofPool 2305843009213693951).settings.validate = .ok () := rfl
  exact ⟨hreachable, hvalid,
    (build_answered hreachable _).built hvalid rfl (Nat.le_refl Dispatcher.permitLimit)⟩

/-- With one place more its settings are still valid, but building it breaks down. -/
theorem build_too_large :
    (Blueprint.ofPool 2305843009213693952).settings.validate = .ok () ∧
      ((buildEngine (.ofPool 2305843009213693952)).run .empty).1 = .error .tooManyPermits := by
  have hvalid : (Blueprint.ofPool 2305843009213693952).settings.validate = .ok () := rfl
  exact ⟨hvalid, by decide +kernel⟩

end ContentEngine
