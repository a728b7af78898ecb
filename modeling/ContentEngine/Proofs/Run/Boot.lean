import ContentEngine.Proofs.Run.Build
import ContentEngine.Proofs.Run.Scanning

/-!
# Nothing configured is lost

If the settings are valid and a store serves the configuration source, an engine is built, whatever its
tree holds.  Unless there is an error among the problems of the engine, all that is configured in the
tree is there: a rule for each processor, a detector for each detector, and the sources.

## Strategy

A building has four steps: the configuration source is handed over, the tree is scanned, the sources
that were found are registered, and the engine is made of its parts.  The problems of the engine are
those of all steps, so if none of them is an error no step left anything out.  On the way the background
may go on, but the new federation is nobody else's, so it stays open and serves the same store.
-/

namespace ContentEngine

open ContentEngine.Configuration

variable {held : List Stake} {s s' : System} {id : FederationId}

/-! ## The configuration source -/

/-- A source that was handed over is served from a store with some contents, and other sources are served
as before. -/
structure HandedOver (id : FederationId) (name : String) (store : StoreId) (contents : Store)
    (s s' : System) : Prop where
  serves : s'.Serves id name store
  contents : ∃ binding, s'.depot.store store = { contents with binding := binding }
  others : ∀ other, other ≠ name → s'.pool? id other = s.pool? id other
  configurationSource :
    (s'.federation id).configurationSource = (s.federation id).configurationSource
  size : s'.federations.size = s.federations.size
  engines : s'.engines = s.engines

theorem installSource_plain (h : Trading held s) (hid : id < s.federations.size) (hopen : s.IsOpen id)
    (name : String) (store : StoreId) :
    let r := (installSource id name ⟨store, .plain⟩ none).run s
    r.1 = .ok () ∧ HandedOver id name store (s.depot.store store) s r.2 := by
  have hstate : (s.federation id).state.isClosed = false := hopen
  obtain ⟨d', hinstall, hinstalled⟩ := @Federation.install_open (s.federation id) s.depot name
    ⟨store, .plain⟩ none rfl hstate (h.housed.made id)
  have hcontents := (s.federation id).install_store s.depot name ⟨store, .plain⟩ none store
  have hrun : (withFederation id fun f d => f.install d name ⟨store, .plain⟩ none).run s =
      (((s.federation id).install s.depot name ⟨store, .plain⟩ none).1, (s.setFederation id
        ((s.federation id).install s.depot name ⟨store, .plain⟩ none).2.1).setDepot
          ((s.federation id).install s.depot name ⟨store, .plain⟩ none).2.2) := rfl
  have hwait : (elapse Manner.plain.delay).run s = ((), s) := rfl
  unfold installSource
  dsimp only
  rw [fromSystem_bind, Federation.requireOpen, hstate, if_neg Bool.false_ne_true]
  dsimp only
  rw [run_bind, hwait]
  dsimp only
  rw [hrun]
  rw [hinstall] at hcontents ⊢
  have hself : ((s.setFederation id { s.federation id with
      pools := Table.insert name s.depot.pools.size (s.federation id).pools }).setDepot
        d').federation id = { s.federation id with
          pools := Table.insert name s.depot.pools.size (s.federation id).pools } :=
    (s.federation_setFederation id id _).trans (if_pos ⟨rfl, hid⟩)
  have hpool := System.pool?_insert hid name s.depot.pools.size d'
  refine ⟨rfl, ⟨?_, s.depot.pools.size, (hpool name).trans (if_pos rfl), ?_⟩, hcontents, fun other hother => ?_,
    ?_, Array.size_setIfInBounds, rfl⟩
  · unfold System.IsOpen
    rw [hself]
    exact hopen
  · change (d'.pool s.depot.pools.size).connector = _
    rw [hinstalled.fresh]
    rfl
  · rw [hpool, if_neg hother]
  · rw [hself]

theorem registerConnector_plain (h : Trading held s) (hid : id < s.federations.size)
    (hopen : s.IsOpen id) (name : String) {plan : ConnectorPlan} (hplain : plan.manner = .plain) :
    let built := s.depot.build plan
    let r := (registerConnector id name plan).run s
    r.1 = .ok () ∧ HandedOver id name built.1.store (built.2.store built.1.store) s r.2 := by
  have hbuilt := lasting_trading.build held plan s h
  have hrun : (withDepot fun d => d.build plan).run s =
      ((s.depot.build plan).1, s.setDepot (s.depot.build plan).2) := rfl
  have hconnector : (s.depot.build plan).1 = ⟨(s.depot.build plan).1.store, .plain⟩ :=
    congrArg (Connector.mk (s.depot.build plan).1.store) hplain
  rw [hrun] at hbuilt
  obtain ⟨hok, hhanded⟩ := installSource_plain hbuilt hid hopen name (s.depot.build plan).1.store
  dsimp only
  unfold registerConnector
  rw [run_bind, hrun, hconnector]
  exact ⟨hok, { hhanded with }⟩

/-- The graph over the configuration source shows the workspace of the repository. -/
theorem configurationGraph_run {r : Repository} {name : String}
    (hname : (s.federation r.federation).configurationSource = name)
    (hserved : (s.pool? r.federation name).isSome) :
    r.configurationGraph.run s = (.ok ⟨r.federation, name, r.workspace⟩, s) := by
  have hcontains : (s.federation r.federation).contains name = true := hserved
  have hsource : (Graph.ofSource r.federation name).run s = (.ok ⟨r.federation, name, none⟩, s) := by
    unfold Graph.ofSource
    rw [fromSystem_bind, hcontains, if_pos rfl]
    rfl
  unfold Repository.configurationGraph Repository.graph
  rw [fromSystem_bind, hname, fromSystem_bind, run_bind, hsource]
  dsimp only
  rw [if_pos hname.symm]
  rfl

/-! ## The sources -/

/-- The sources of a container are registered with the descriptors in it, of one name with the first
one. -/
theorem sources_registered (h : Trading held s) (hid : id < s.federations.size) (hopen : s.IsOpen id)
    (hun : s.Unthreatened id)
    (hbare : ∀ name, name ≠ (s.federation id).configurationSource → s.descriptor? id name = none)
    {nodes : List Node} {ds : List SourceDescriptor} (hds : List.Forall₂ DescribesSource nodes ds)
    (hno : Problems.hasErrors ((applyDescriptors id ds).run s).1.2 = false) :
    ∀ n ∈ nodes, resolvedName n ≠ (s.federation id).configurationSource → ∃ first d,
      nodes.find? (resolvedName · == resolvedName n) = some first ∧ DescribesSource first d ∧
        System.descriptor? ((applyDescriptors id ds).run s).2 id (resolvedName n) = some d := by
  obtain ⟨-, hfates⟩ := fates_applied h hid hopen hun ds
  intro n hn hname
  have hfate := hfates _ hname
  have hfound : (nodes.find? (resolvedName · == resolvedName n)).isSome :=
    List.find?_isSome.mpr ⟨n, hn, beq_self_eq_true _⟩
  obtain ⟨first, hfirst⟩ := Option.isSome_iff_exists.mp hfound
  have hrel := rel_find?_source hds (resolvedName n)
  rw [hfirst] at hrel
  cases hd : ds.find? (·.name == resolvedName n) with
  | none =>
      rw [hd] at hrel
      cases hrel
  | some d =>
      rw [hd] at hrel
      obtain ⟨hdescribes⟩ := hrel
      have hsame : d.name = resolvedName n := by simpa using List.find?_some hd
      have hnew : ∀ existing, s.descriptor? id (resolvedName n) = some existing →
          existing.same d = false := fun _ hexisting =>
        nomatch (hbare _ hname).symm.trans hexisting
      refine ⟨first, d, hfirst, hdescribes, ?_⟩
      cases hanswer : ((registerSource id d).run s).1 with
      | ok _ =>
          rw [← hsame]
          exact (hfate.registered d hd hnew hanswer).1.descriptor?_eq
      | error fault =>
          -- a source that could not be registered is an error
          have herrors := (hfate.refused d fault hd hnew hanswer).2.2
          have hnone : Problems.errors ((applyDescriptors id ds).run s).1.2 = [] :=
            List.filter_eq_nil_iff.mpr fun p hp herror =>
              Bool.false_ne_true (hno.symm.trans (List.any_eq_true.mpr ⟨p, hp, herror⟩))
          unfold Problems.errorsAbout at herrors
          rw [hnone] at herrors
          cases herrors

/-! ## The engine -/

/-- An engine was made of its parts, which changed neither sources nor stores. -/
structure Assembled (federation : FederationId) (rules : RuleMatcher Processor)
    (detectors : List (String × Detector)) (problems : Problems) (s : System) (engine : EngineId)
    (s' : System) : Prop where
  federations : s'.federations = s.federations
  depot : s'.depot = s.depot
  federation : (s'.engine engine).federation = federation
  rules : (s'.service (s'.engine engine).service).rules = rules
  detectors : (s'.engine engine).detectors = ⟨detectors⟩
  problems : (s'.engine engine).problems = problems

theorem buildOn_assembled (blueprint : Blueprint) (root : NodePath) (bus : BusId)
    (hpool : blueprint.settings.dispatcher.poolSize ≤ Dispatcher.permitLimit) (federation : FederationId)
    (graph : Graph) (s : System) :
    let scan := (scanConfiguration graph root).run s
    let applied := (applyDescriptors federation scan.1.sources).run scan.2
    let rules := bindAll (bindRule blueprint.processors) scan.1.processors
    let detectors := bindAll (bindDetector blueprint.detectors) scan.1.detectors
    let r := (buildOn blueprint root bus federation graph).run s
    ∃ engine, r.1 = .ok engine ∧ Assembled federation rules.1 detectors.1
      (scan.1.problems ++ applied.1.2 ++ rules.2 ++ detectors.2) applied.2 engine r.2 := by
  dsimp only
  unfold buildOn
  rw [run_bind]
  generalize (scanConfiguration graph root).run s = scan
  obtain ⟨scan, s₁⟩ := scan
  dsimp only
  rw [run_bind]
  generalize (applyDescriptors federation scan.sources).run s₁ = applied
  obtain ⟨⟨outcome, problems⟩, s₂⟩ := applied
  dsimp only
  -- what follows leaves the federations and the depot as they are
  let Same : System → Prop := fun s => s.federations = s₂.federations ∧ s.depot = s₂.depot
  let Made : Except BuildFailure EngineId → System → Prop := fun answer s' => ∃ engine,
    answer = .ok engine ∧ Assembled federation
      (bindAll (bindRule blueprint.processors) scan.processors).1
      (bindAll (bindDetector blueprint.detectors) scan.detectors).1
      (scan.problems ++ problems ++ (bindAll (bindRule blueprint.processors) scan.processors).2 ++
        (bindAll (bindDetector blueprint.detectors) scan.detectors).2) s₂ engine s'
  suffices hmade : Ensures Same _ Made from hmade s₂ ⟨rfl, rfl⟩
  refine .andThen (R := Same) (.exchange fun s hs => hs) fun observer => ?_
  unfold Dispatcher.new?
  rw [if_neg (Nat.not_lt_of_le hpool)]
  refine .andThen (R := Same) (.exchange fun s hs => hs) fun dispatcher => ?_
  refine .seq (R := fun id s => Same s ∧ (s.service id).rules =
      (bindAll (bindRule blueprint.processors) scan.processors).1)
    (.exchange fun s hs => ⟨hs, ?_⟩) fun service => ?_
  · exact congrArg Service.rules ((System.getD_push ..).trans (if_pos rfl))
  refine .andThen (R := fun s => Same s ∧ (s.service service).rules =
      (bindAll (bindRule blueprint.processors) scan.processors).1) (.update fun s hs => hs) fun _ => ?_
  refine .exchange fun s ⟨⟨hfederations, hdepot⟩, hrules⟩ => ⟨s.engines.size, rfl, ?_⟩
  refine ⟨hfederations, hdepot, ?_, ?_, ?_, ?_⟩
  all_goals
    unfold System.engine
    rw [System.getD_push, if_pos rfl]
  exact hrules

/-- No engine is about to shut down a federation that is nobody's. -/
theorem Building.unthreatened {direct : FederationId → Prop} (h : Building direct id s) :
    s.Unthreatened id := by
  intro engine hengine
  rcases Nat.lt_or_ge engine s.engines.size with hlt | hge
  · exact absurd hengine (h.alone engine hlt)
  · rw [s.engine_out hge]
    rfl

theorem Settings.configurationRoot_of_validate {settings : Settings}
    (h : settings.validate = .ok ()) : ∃ root, settings.configurationRoot = .ok root := by
  unfold configurationRoot
  cases hparse : NodePath.parse settings.configurationPath with
  | ok root => exact ⟨root, rfl⟩
  | error e =>
      unfold validate at h
      rw [hparse] at h
      split at h
      · cases h
      · split at h <;> cases h

namespace Blueprint

/-- The plan of the connector that serves the configuration source. -/
def plan (b : Blueprint) : ConnectorPlan :=
  b.configuration.getD ⟨.own .new, .plain⟩

/-- The store that an engine which is built reads its configuration from. -/
def contents (b : Blueprint) (s : System) : Store :=
  let built := s.depot.build b.plan
  built.2.store built.1.store

/-- All that is configured in a tree is there in an engine. -/
structure Realized (b : Blueprint) (root : NodePath) (nodes : Workspace) (s : System) (e : Engine) :
    Prop where
  rules : List.Forall₂
    (fun n bound => DescribesRule n bound.rule ∧
      b.processors.Made bound.rule.classname bound.rule bound.processor)
    (nodes.childNodes (Container.processors.path root)) (s.service e.service).rules
  /-- The detector by extension follows those that are configured. -/
  detectors : ∃ made, e.detectors.detectors = made ++ [("extension", Detector.byExtension)] ∧
    List.Forall₂
      (fun n entry => ∃ rule, DescribesDetector n rule ∧ entry.1 = rule.name ∧
        b.detectors.Made rule.classname rule entry.2)
      (nodes.childNodes (Container.detectors.path root)) made
  /-- Of several sources of one name the first one counts. -/
  sources : ∀ n ∈ nodes.childNodes (Container.sources.path root),
    resolvedName n ≠ b.settings.configurationSource → ∃ first d,
      (nodes.childNodes (Container.sources.path root)).find? (resolvedName · == resolvedName n) =
        some first ∧ DescribesSource first d ∧ s.descriptor? e.federation (resolvedName n) = some d

/-- What a building without errors makes of a configuration source that was handed over. -/
private theorem realized_buildOn {b : Blueprint} (h : Trading held s) (hid : id < s.federations.size)
    (hun : s.Unthreatened id) {store : StoreId} (hserves : s.Serves id b.settings.configurationSource store)
    (hsource : (s.federation id).configurationSource = b.settings.configurationSource)
    (hbare : ∀ name, name ≠ b.settings.configurationSource → s.pool? id name = none)
    (hsound : (s.depot.store store).Sound) (hprocessors : b.processors.typeOf = ProcessorRule.classname)
    (hdetectors : b.detectors.typeOf = DetectorRule.classname)
    (hpool : b.settings.dispatcher.poolSize ≤ Dispatcher.permitLimit) (root : NodePath) (bus : BusId) :
    let graph : Graph := ⟨id, b.settings.configurationSource, b.settings.workspace⟩
    let r := (buildOn b root bus id graph).run s
    ∃ engine, r.1 = .ok engine ∧ (Problems.hasErrors (r.2.engine engine).problems = false →
      ∃ nodes, (s.depot.store store).read? b.settings.workspace = some nodes ∧
        b.Realized root nodes r.2 (r.2.engine engine)) := by
  intro graph
  have hscanned := scanConfiguration_complete h (g := graph) hserves hun hsound root
  have hlater := lasting_trading.scanConfiguration held graph root s h
  have hbackground := Background.scanConfiguration graph root s (.refl s)
  obtain ⟨engine, hok, hassembled⟩ := buildOn_assembled b root bus hpool id graph s
  refine ⟨engine, hok, fun hno => ?_⟩
  generalize ((buildOn b root bus id graph).run s).2 = s' at hassembled hno ⊢
  generalize (scanConfiguration graph root).run s = scan
    at hscanned hlater hbackground hassembled hno ⊢
  obtain ⟨scan, s₁⟩ := scan
  dsimp only at hscanned hlater hbackground hassembled hno
  rw [hassembled.problems, Problems.hasErrors_append, Problems.hasErrors_append,
    Problems.hasErrors_append, Bool.or_eq_false_iff, Bool.or_eq_false_iff, Bool.or_eq_false_iff] at hno
  obtain ⟨⟨⟨hscan, happlied⟩, hrules⟩, hchain⟩ := hno
  obtain ⟨nodes, hnodes, hcomplete⟩ := hscanned hscan
  have hfederation := hbackground.spared id hun
  refine ⟨nodes, hnodes, ?_, ?_, ?_⟩
  · rw [hassembled.rules]
    refine Problems.forall₂_of_no_errors hcomplete.processors hrules fun n rule hrule hbound => ?_
    obtain ⟨bound, hbound, rfl, hmade⟩ := bindRule_no_errors (nonBlank?_ne_empty hrule.classname) hbound
    rw [hprocessors] at hmade
    exact ⟨bound, hbound, hrule, hmade⟩
  · rw [hassembled.detectors]
    refine ⟨_, rfl, Problems.forall₂_of_no_errors hcomplete.detectors hchain fun n rule hrule hbound => ?_⟩
    obtain ⟨entry, hentry, hname, hmade⟩ := bindDetector_no_errors hbound
    rw [hdetectors] at hmade
    exact ⟨entry, hentry, rule, hrule, hname, hmade⟩
  · have hopen : s₁.IsOpen id := (hserves.of_background hbackground hun).isOpen
    have hsources := sources_registered hlater (hbackground.size ▸ hid) hopen
      (hbackground.engines.unthreatened hun) (fun name hname => ?_) hcomplete.sources happlied
    · rw [hfederation, hsource] at hsources
      intro n hn hname
      obtain ⟨first, d, hfirst, hdescribes, hd⟩ := hsources n hn hname
      refine ⟨first, d, hfirst, hdescribes, ?_⟩
      rw [hassembled.federation, System.descriptor?, System.federation, hassembled.federations,
        hassembled.depot]
      exact hd
    · rw [hfederation, hsource] at hname
      rw [System.descriptor?_eq, System.pool?, hfederation]
      exact congrArg (Option.bind · _) (hbare name hname)

/-- A building begins with a bus and with a federation that has no sources and is nobody else's. -/
private theorem founded (b : Blueprint) (h : Trading held s) :
    ∃ s' bus federation, (∀ g : BusId → FederationId → InSystem (Except BuildFailure EngineId), (do
        let bus ← addBus (.new b.settings.id b.settings.problemCapacity)
        let federation ← addFederation (.new b.settings.id b.settings.configurationSource bus
          b.connectors b.settings.federation.maxIdlePerSource b.settings.problemCapacity)
        g bus federation).run s = (g bus federation).run s') ∧ Trading held s' ∧
      s'.depot = s.depot ∧ Building (fun _ => True) federation s' ∧ s'.IsOpen federation ∧
      (s'.federation federation).configurationSource = b.settings.configurationSource ∧
      ∀ name, s'.pool? federation name = none := by
  let f : Federation := .new b.settings.id b.settings.configurationSource s.buses.size b.connectors
    b.settings.federation.maxIdlePerSource b.settings.problemCapacity
  let s₁ := ((addBus (.new b.settings.id b.settings.problemCapacity)).run s).2
  have haside : Aside s s₁ := .of_eq rfl rfl rfl rfl rfl rfl rfl rfl rfl rfl
  have h₁ : Trading held s₁ := lasting_trading.aside haside h
  have hself : System.federation ((addFederation f).run s₁).2 s₁.federations.size = f :=
    (System.getD_push ..).trans (if_pos rfl)
  refine ⟨((addFederation f).run s₁).2, s.buses.size, s₁.federations.size, fun _ => rfl,
    .addFederation _ _ _ _ _ _ h₁, rfl, building_addFederation h₁.dealt.1 rfl, ?_, ?_, fun name => ?_⟩
  · rw [System.IsOpen, hself]
    rfl
  · rw [hself]
    rfl
  · rw [System.pool?, hself]
    rfl

end Blueprint

/-- With valid settings, and a pool that a dispatcher can have, an engine is built whatever the store of
its configuration source holds.  If there is no error among its problems, all that is configured there
is in the engine. -/
theorem configuration_kept (h : Trading held s) {b : Blueprint} (hvalid : b.settings.validate = .ok ())
    (hpool : b.settings.dispatcher.poolSize ≤ Dispatcher.permitLimit) (hplain : b.plan.manner = .plain)
    (hprocessors : b.processors.typeOf = ProcessorRule.classname)
    (hdetectors : b.detectors.typeOf = DetectorRule.classname) (hcontents : (b.contents s).Reached) :
    let r := (buildEngine b).run s
    ∃ engine, r.1 = .ok engine ∧ (Problems.hasErrors (r.2.engine engine).problems = false →
      ∃ root nodes, b.settings.configurationRoot = .ok root ∧
        (b.contents s).read? b.settings.workspace = some nodes ∧
        b.Realized root nodes r.2 (r.2.engine engine)) := by
  obtain ⟨root, hroot⟩ := Settings.configurationRoot_of_validate hvalid
  have hplan : b.configuration.getD ⟨.own .new, .plain⟩ = b.plan := rfl
  unfold buildEngine
  dsimp only
  rw [hvalid, hroot, hplan]
  dsimp only
  obtain ⟨s₁, bus, federation, hfounded, h₁, hdepot, hbuilding, hopen, hsource, hnone⟩ := b.founded h
  rw [hfounded, run_bind]
  obtain ⟨hok, hhanded⟩ :=
    registerConnector_plain h₁ hbuilding.made hopen b.settings.configurationSource hplain
  have h₂ : Trading held ((registerConnector federation b.settings.configurationSource b.plan).run s₁).2 :=
    lasting_trading.registerConnector held federation b.settings.configurationSource b.plan s₁ h₁
  generalize (registerConnector federation b.settings.configurationSource b.plan).run s₁ = registered
    at hok hhanded h₂ ⊢
  obtain ⟨answer, s₂⟩ := registered
  dsimp only at hok hhanded h₂
  subst hok
  obtain ⟨p, hp, hconnector⟩ := hhanded.serves.pool
  have hsource₂ := hhanded.configurationSource.trans hsource
  dsimp only
  rw [run_bind, configurationGraph_run hsource₂ (Option.isSome_of_eq_some hp)]
  dsimp only
  have hun : s₂.Unthreatened federation :=
    (System.EnginesRest.of_eq hhanded.engines).unthreatened hbuilding.unthreatened
  -- the store was bound to the source, which is no matter of its workspaces
  obtain ⟨binding, hcontained⟩ := hhanded.contents
  rw [hdepot] at hcontained
  have hsound : (s₂.depot.store (s₁.depot.build b.plan).1.store).Sound := by
    rw [hdepot, hcontained]
    exact hcontents.sound.of_eq rfl rfl
  have hread : (s₂.depot.store (s₁.depot.build b.plan).1.store).read? b.settings.workspace =
      (b.contents s).read? b.settings.workspace := by
    rw [hdepot, hcontained]
    rfl
  obtain ⟨engine, hbuilt, hrealized⟩ := Blueprint.realized_buildOn h₂ (hhanded.size ▸ hbuilding.made)
    hun hhanded.serves hsource₂ (fun name hname => (hhanded.others name hname).trans (hnone name))
    hsound hprocessors hdetectors hpool root bus
  refine ⟨engine, hbuilt, fun hno => ?_⟩
  obtain ⟨nodes, hnodes, hrealized⟩ := hrealized hno
  exact ⟨root, nodes, rfl, hread ▸ hnodes, hrealized⟩

/-- A blueprint whose tree holds a source, a processor and a detector. -/
def Blueprint.small : Blueprint where
  settings := .default "engine"
  configuration := some ⟨.own (([
      .edit (.put none "/cairn:sources/docs" [("cairn:connectorType", .text "memory")]) (.ofMillis 0),
      .edit (.put none "/cairn:processors/copy"
        [("cairn:classname", .text "copying"), ("cairn:pathExpression", .text "/a/*")]) (.ofMillis 0),
      .edit (.put none "/cairn:mimeTypeDetectors/plain" [("cairn:classname", .text "fixed")])
        (.ofMillis 0)] : List StoreCall).foldl StoreCall.after .new), .plain⟩
  connectors := .connectors
  processors := Registry.processors.register "copying" fun _ => .ok fun _ => ⟨[], .reported []⟩
  detectors := Registry.detectors.register "fixed" fun _ => .ok (.fixed "text/plain")

theorem configuration_kept_small :
    let r := (buildEngine .small).run .empty
    (r.1 = .ok 0 ∧ Problems.hasErrors (r.2.engine 0).problems = false ∧
      (r.2.service (r.2.engine 0).service).rules.map (·.rule.name) = ["copy"] ∧
      (r.2.engine 0).detectors.names = ["plain", "extension"] ∧
      (r.2.federation (r.2.engine 0).federation).sources = ["cairn:configuration", "docs"]) ∧
      ∃ root nodes, Blueprint.small.Realized root nodes r.2 (r.2.engine 0) := by
  intro r
  have hrun : r.1 = .ok 0 ∧ Problems.hasErrors (r.2.engine 0).problems = false ∧
      (r.2.service (r.2.engine 0).service).rules.map (·.rule.name) = ["copy"] ∧
      (r.2.engine 0).detectors.names = ["plain", "extension"] ∧
      (r.2.federation (r.2.engine 0).federation).sources = ["cairn:configuration", "docs"] := by
    decide +kernel
  obtain ⟨engine, hbuilt, hkept⟩ := configuration_kept .start (b := .small) rfl (by decide) rfl rfl rfl
    ⟨.new, .new, _, rfl⟩
  obtain rfl : 0 = engine := Except.ok.inj (hrun.1.symm.trans hbuilt)
  obtain ⟨root, nodes, -, -, hrealized⟩ := hkept hrun.2.1
  exact ⟨hrun, root, nodes, hrealized⟩

end ContentEngine
