import ContentEngine.System.Components

/-!
# Engines

An engine is built from settings and from its configuration tree. What is wrong in the tree becomes
a problem, and errors among the problems keep the engine from starting. While it runs, content
changes become jobs.

A shutdown closes the intake of jobs and takes the processing observer off the bus at once. Then, in
the background, the engine waits for the jobs that were accepted, not longer than its settings say,
closes its sources and terminates.
-/

namespace ContentEngine

/-- The processor implementations that are registered. -/
abbrev ProcessorRegistry := Registry ProcessorRule Processor

/-- The detector implementations that are registered. -/
abbrev DetectorRegistry := Registry DetectorRule Detector

/-- A registry without processors. -/
def Registry.processors : ProcessorRegistry :=
  .empty "processor implementation" ProcessorRule.classname

/-- A registry without detectors. -/
def Registry.detectors : DetectorRegistry :=
  .empty "detector implementation" DetectorRule.classname

/-- What an engine is built from. -/
structure Blueprint where
  settings : Settings
  /-- Serves the configuration source; an empty store does if there is none. -/
  configuration : Option ConnectorPlan
  connectors : Registry SourceDescriptor ConnectorPlan
  processors : ProcessorRegistry
  detectors : DetectorRegistry

/-- Why no engine was built. -/
inductive BuildFailure where
  | refused (fault : Fault)
  /-- The pool size is above what a dispatcher can have. -/
  | tooManyPermits
  deriving DecidableEq, Repr

/-! ## Repositories -/

namespace Repository

/-- The record text of a repository whose configuration source has the given name. -/
def recordText (r : Repository) (configurationSource : String) : String :=
  Text.record "RepositoryService" [
    ("configuration_source", Text.inQuotes configurationSource),
    ("configuration_root",
      Text.record "NodePath" [("segments", Text.listInQuotes r.root.segments)]),
    ("workspace", Text.optionInQuotes r.workspace)]

/-- A graph over a source; that over the configuration source shows the repository's workspace. -/
def graph (r : Repository) (name : String) : InSystem (Except Fault Graph) := do
  let f ← fromSystem (System.federation · r.federation)
  match ← Graph.ofSource r.federation name with
  | .error fault => pure (.error fault)
  | .ok g =>
    pure (.ok (if name = f.configurationSource then { g with workspace := r.workspace } else g))

/-- A graph over the configuration source. -/
def configurationGraph (r : Repository) : InSystem (Except Fault Graph) := do
  let f ← fromSystem (System.federation · r.federation)
  r.graph f.configurationSource

/-- Reloads the sources that are configured. -/
def reload (r : Repository) : InSystem Problems :=
  reloadSources r.federation r.root r.workspace

end Repository

/-! ## Building -/

/-- A rule bound to its processor, or the problem with that. A rule without implementation was
reported when it was read. -/
def bindRule (registry : ProcessorRegistry) (rule : ProcessorRule) :
    Option (BoundRule Processor) × Problems :=
  if rule.classname.isEmpty then (none, [])
  else
    match registry.create rule with
    | .ok processor => (some ⟨rule, processor⟩, [])
    | .error failure =>
      (none, [(Problem.errorAbout rule.name
        "Processor rule '\x7b\x7d' names an unknown implementation '\x7b\x7d'"
        [rule.name, rule.classname]).causedBy failure.outermost])

/-- The detector of a rule, or the problem with it. -/
def bindDetector (registry : DetectorRegistry) (rule : DetectorRule) :
    Option (String × Detector) × Problems :=
  match registry.create rule with
  | .ok detector => (some (rule.name, detector), [])
  | .error failure =>
    (none, [(Problem.errorAbout rule.name
      "Detector '\x7b\x7d' names an unknown implementation '\x7b\x7d'"
      [rule.name, rule.classname]).causedBy failure.outermost])

/-- What comes of binding each rule, and all problems. -/
def bindAll {ρ α : Type} (bind : ρ → Option α × Problems) (rules : List ρ) : List α × Problems :=
  let results := rules.map bind
  (results.filterMap Prod.fst, results.flatMap Prod.snd)

/-- Builds an engine on a federation whose configuration source is registered. -/
def buildOn (blueprint : Blueprint) (root : NodePath) (bus : BusId) (federation : FederationId)
    (graph : Graph) : InSystem (Except BuildFailure EngineId) := do
  let settings := blueprint.settings
  let scan ← scanConfiguration graph root
  let (_, sourceProblems) ← applyDescriptors federation scan.sources
  let (rules, ruleProblems) := bindAll (bindRule blueprint.processors) scan.processors
  let (detectors, detectorProblems) := bindAll (bindDetector blueprint.detectors) scan.detectors
  let problems := scan.problems ++ sourceProblems ++ ruleProblems ++ detectorProblems
  let observer ← observe bus (.configuration federation root settings.workspace)
  match Dispatcher.new? settings.id federation settings.dispatcher.poolSize
      settings.problemCapacity with
  | none => pure (.error .tooManyPermits)
  | some d =>
    let dispatcher ← addDispatcher d
    let service ← addService (.new settings.id bus dispatcher rules)
    writeLog (problems.map (.ofProblem settings.id))
    modifyGet fun s =>
      (.ok s.engines.size, { s with engines := s.engines.push {
        settings := settings
        lifecycle := .new "engine" settings.id
        bus := bus
        federation := federation
        dispatcher := dispatcher
        service := service
        repository := ⟨federation, root, settings.workspace⟩
        detectors := ⟨detectors⟩
        problems := problems
        closing := .idle
        configurationObserver := observer } })

/-- Builds an engine. -/
def buildEngine (blueprint : Blueprint) : InSystem (Except BuildFailure EngineId) := do
  let settings := blueprint.settings
  match settings.validate, settings.configurationRoot with
  | .error fault, _ => pure (.error (.refused fault))
  | _, .error fault => pure (.error (.refused fault))
  | .ok (), .ok root =>
    let bus ← addBus (.new settings.id settings.problemCapacity)
    let federation ← addFederation (.new settings.id settings.configurationSource bus
      blueprint.connectors settings.federation.maxIdlePerSource settings.problemCapacity)
    let plan := blueprint.configuration.getD ⟨.own .new, .plain⟩
    match ← registerConnector federation settings.configurationSource plan with
    | .error fault => pure (.error (.refused fault))
    | .ok () =>
      match ← Repository.configurationGraph ⟨federation, root, settings.workspace⟩ with
      | .error fault => pure (.error (.refused fault))
      | .ok graph => buildOn blueprint root bus federation graph

/-- Gives an engine up. One that never started no longer follows its configuration. -/
def abandonEngine (id : EngineId) : InSystem Unit := do
  let e ← fromSystem (System.engine · id)
  if e.lifecycle.state = .notStarted then
    let _ ← withBus e.bus fun b => b.unregister e.configurationObserver

/-! ## Starting and shutting down -/

/-- Starts the parts of an engine in their order, up to the first that fails. -/
def startComponents (e : Engine) : InSystem (Except Fault Unit) := do
  match ← startFederation e.federation with
  | .error fault => pure (.error fault)
  | .ok () =>
    match ← startDispatcher e.dispatcher with
    | .error fault => pure (.error fault)
    | .ok () => startService e.service

/-- Changes the lifecycle of an engine. -/
def withLifecycle {α : Type} (id : EngineId) (f : Lifecycle → Lifecycle × α) : InSystem α :=
  modifyGet fun s =>
    let e := s.engine id
    let (lifecycle, answer) := f e.lifecycle
    (answer, s.setEngine id { e with lifecycle := lifecycle })

/-- What is logged when problems keep an engine from starting. -/
def refusalLines (e : Engine) : List LogLine :=
  .errorIn "engine" e.settings.id "errors in the configuration prevent the engine from starting" ::
    (Problems.errors e.problems).map fun p => .tagged .error e.settings.id p.text

/-- The fault of starting an engine that problems keep from starting. -/
def refusalFault (e : Engine) : Fault :=
  .notRunning (toString (Problems.errors e.problems).length ++
    " configuration error(s) prevent engine '" ++ e.settings.id ++ "' from starting")

/-- Starts an engine. -/
def startEngine (id : EngineId) : InSystem (Except Fault Unit) := do
  let e ← fromSystem (System.engine · id)
  if Problems.hasErrors e.problems then
    writeLog (refusalLines e)
    pure (.error (refusalFault e))
  else
    match ← withLifecycle id Lifecycle.beginStart with
    | .error fault => pure (.error fault)
    | .ok false => pure (.ok ())
    | .ok true =>
      writeLog [.starting "engine" e.settings.id]
      match ← startComponents e with
      | .ok () =>
        withLifecycle id fun l => (l.markRunning, ())
        pure (.ok ())
      | .error fault =>
        writeLog [.errorIn "engine" e.settings.id ("failed to start: " ++ fault.message)]
        shutdownDispatcher e.dispatcher
        shutdownService e.service
        shutdownFederation e.federation
        withLifecycle id fun l => (l.markTerminated, ())
        pure (.error fault)

/-- Begins to shut an engine down. -/
def shutdownEngine (id : EngineId) : InSystem Unit := do
  let e ← fromSystem (System.engine · id)
  match ← withLifecycle id Lifecycle.beginShutdown with
  | .alreadyShuttingDown => pure ()
  | .terminated =>
    shutdownDispatcher e.dispatcher
    shutdownService e.service
    shutdownFederation e.federation
  | .drain =>
    writeLog [.stopping "engine" e.settings.id]
    shutdownDispatcher e.dispatcher
    shutdownService e.service
    modify fun s => (s.setEngine id { s.engine id with closing := .due }).enqueue [.close id]

/-- Waits for an engine to terminate. -/
def awaitEngine (id : EngineId) (millis : Nat) : InSystem Bool :=
  awaitTermination millis fun s => (s.engine id).lifecycle.state

/-! ## Access -/

namespace System

/-- The guard of an engine's accessors. -/
def guard (s : System) (e : Engine) : StateGuard :=
  ⟨(s.federation e.federation).state, (s.dispatcher e.dispatcher).lifecycle.state⟩

/-- Whether an engine and the parts that its accessors need are running. -/
def isRunning (s : System) (e : Engine) : Bool :=
  e.lifecycle.isRunning && (s.guard e).isRunning

/-- The record text of an engine. -/
def engineText (s : System) (e : Engine) : String :=
  Text.record "Engine" [
    ("id", Text.inQuotes e.settings.id),
    ("state", e.lifecycle.state.name),
    ("federation", (s.federation e.federation).state.name),
    ("dispatcher", (s.dispatcher e.dispatcher).lifecycle.state.name),
    ("processing", (s.service e.service).lifecycle.state.name)]

end System

/-- Does something with an engine if its parts are running. -/
def guarded {α : Type} (id : EngineId) (access : Engine → InSystem (Except Fault α)) :
    InSystem (Except Fault α) := do
  let s ← get
  let e := s.engine id
  match (s.guard e).requireRunning with
  | .error fault => pure (.error fault)
  | .ok () => access e

/-- Borrows a connection to a source of an engine. -/
def engineConnection (id : EngineId) (name : String) : InSystem (Except Fault Loan) :=
  guarded id fun e => borrowConnection e.federation name

/-- A graph over a source of an engine. -/
def engineGraph (id : EngineId) (name : String) : InSystem (Except Fault Graph) :=
  guarded id fun e => e.repository.graph name

/-- A graph over the configuration source of an engine, which need not be running. -/
def engineConfigurationGraph (id : EngineId) : InSystem (Except Fault Graph) := do
  let e ← fromSystem (System.engine · id)
  e.repository.configurationGraph

/-- The repository of an engine. -/
def engineRepository (id : EngineId) : InSystem (Except Fault Repository) :=
  guarded id fun e => pure (.ok e.repository)

/-- The detectors of an engine. -/
def engineDetectors (id : EngineId) : InSystem (Except Fault DetectorChain) :=
  guarded id fun e => pure (.ok e.detectors)

/-- The federation of an engine. -/
def engineFederation (id : EngineId) : InSystem (Except Fault FederationId) :=
  guarded id fun e => pure (.ok e.federation)

/-- The processing service of an engine. -/
def engineService (id : EngineId) : InSystem (Except Fault ServiceId) :=
  guarded id fun e => pure (.ok e.service)

end ContentEngine
