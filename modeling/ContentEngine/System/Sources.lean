import ContentEngine.Configuration.Tree
import ContentEngine.System.Errands

/-!
# Sources of a federation

Registering a source, borrowing a connection and reading a graph, with the waiting that they need.

A reconciliation makes the configured sources of a federation agree with a list of descriptors: new
names are registered, sources whose descriptor changed are replaced, and configured sources that
are not in the list are removed. A reload reconciles with the descriptors in the configuration
tree; a tree that cannot be read leaves the federation as it is.
-/

namespace ContentEngine

/-! ## Registering and borrowing -/

/-- Registers a source that a connector serves. -/
def installSource (id : FederationId) (name : String) (connector : Connector)
    (descriptor : Option SourceDescriptor) : InSystem (Except Fault Unit) := do
  let f ← fromSystem (System.federation · id)
  match f.requireOpen with
  | .error fault => pure (.error fault)
  | .ok () =>
    elapse connector.manner.delay
    withFederation id fun f d => f.install d name connector descriptor

/-- Registers a source that is served by a connector which is handed over. -/
def registerConnector (id : FederationId) (name : String) (plan : ConnectorPlan) :
    InSystem (Except Fault Unit) := do
  let connector ← withDepot fun d => d.build plan
  installSource id name connector none

/-- Registers a source that is described by configuration. -/
def registerSource (id : FederationId) (descriptor : SourceDescriptor) :
    InSystem (Except Fault Unit) := do
  let f ← fromSystem (System.federation · id)
  match f.planFor descriptor with
  | .error fault => pure (.error fault)
  | .ok plan =>
    let connector ← withDepot fun d => d.build plan
    installSource id descriptor.name connector (some descriptor)

/-- Removes a source and tells whether there was one. -/
def removeSource (id : FederationId) (name : String) : InSystem Bool :=
  withFederation id fun f d => f.remove d name

/-- Waits for a connection that is being opened. At most two attempts are made to open one. -/
def awaitBorrowing (id : FederationId) : Nat → Borrowing → InSystem (Except Fault Loan)
  | _, .done loan => pure (.ok loan)
  | _, .failed fault => pure (.error fault)
  | 0, .opening opening _ => pure (.error (.unknownSource opening.source))
  | attempts + 1, .opening opening millis => do
    elapse millis
    let next ← withFederation id fun f d =>
      let (next, d) := f.resumeBorrow d opening
      (next, f, d)
    awaitBorrowing id attempts next

/-- Asks a federation for a connection, without waiting for it. -/
def requestConnection (id : FederationId) (name : String) : InSystem Borrowing :=
  withFederation id fun f d =>
    let (borrowing, d) := f.borrow d name
    (borrowing, f, d)

/-- Borrows a connection to a source. -/
def borrowConnection (id : FederationId) (name : String) : InSystem (Except Fault Loan) := do
  awaitBorrowing id 2 (← requestConnection id name)

/-- Borrows a connection from a pool. -/
def checkoutFrom (id : PoolId) : InSystem (Except Failure Loan) := do
  match ← withDepot fun d => d.checkout id with
  | .borrowed loan => pure (.ok loan)
  | .refused failure => pure (.error failure)
  | .opening millis =>
    elapse millis
    withDepot fun d => d.finishOpening id

/-! ## Graphs -/

/-- A view over one source, in its default workspace if none is given. It holds no connection: each
read borrows one and gives it back. -/
structure Graph where
  federation : FederationId
  source : String
  workspace : Option String

namespace Graph

/-- The record text of a graph. -/
def recordText (g : Graph) : String :=
  Text.record "Graph" [
    ("source_name", Text.inQuotes g.source),
    ("workspace", Text.optionInQuotes g.workspace)]

/-- The view over a source that is registered. -/
def ofSource (id : FederationId) (name : String) : InSystem (Except Fault Graph) := do
  let f ← fromSystem (System.federation · id)
  pure (if f.contains name then .ok ⟨id, name, none⟩ else .error (.unknownSource name))

/-- The nodes at most `depth` levels below a root path. -/
def subgraph (g : Graph) (root : NodePath) (depth : Nat) :
    InSystem (Except Fault (Option Subgraph)) := do
  match ← borrowConnection g.federation g.source with
  | .error fault => pure (.error fault)
  | .ok loan =>
    let result ← withDepot fun d =>
      (d.read loan.connection g.workspace root depth, d.release loan)
    match result with
    | .ok graph => pure (.ok graph)
    | .error failure => pure (.error (.connection g.source failure))

/-- The node at a path. -/
def node (g : Graph) (path : NodePath) : InSystem (Except Fault (Option Node)) := do
  match ← g.subgraph path 0 with
  | .ok graph => pure (.ok (graph.bind Subgraph.rootNode?))
  | .error fault => pure (.error fault)

/-- The direct children of a path; none if there is no node at the path. -/
def children (g : Graph) (path : NodePath) : InSystem (Except Fault (List Node)) := do
  match ← g.subgraph path 1 with
  | .ok (some graph) => pure (.ok (graph.children path))
  | .ok none => pure (.ok [])
  | .error fault => pure (.error fault)

end Graph

/-- Reads the containers of a configuration tree. -/
def scanConfiguration (g : Graph) (root : NodePath) : InSystem Configuration.Scan := do
  let sources ← g.subgraph (Configuration.Container.sources.path root) 1
  let processors ← g.subgraph (Configuration.Container.processors.path root) 1
  let detectors ← g.subgraph (Configuration.Container.detectors.path root) 1
  pure (Configuration.scan root sources processors detectors)

/-! ## Reconciliation -/

/-- What a reconciliation changed. -/
structure Reconciliation where
  added : List String
  replaced : List String
  removed : List String
  unchanged : List String
  deriving DecidableEq, Repr

namespace Reconciliation

/-- Nothing was changed or looked at. -/
def none : Reconciliation := ⟨[], [], [], []⟩

/-- Whether nothing was changed. -/
def isEmpty (r : Reconciliation) : Bool :=
  r.added.isEmpty && r.replaced.isEmpty && r.removed.isEmpty

end Reconciliation

/-- How far a reconciliation has come: the names that were wanted so far, what was changed, and what
went wrong. -/
structure Reconciling where
  wanted : List String
  outcome : Reconciliation
  problems : Problems

/-- The descriptors of the sources of a federation; none for a source without descriptor. -/
def currentDescriptors (f : Federation) (d : Depot) : Table String (Option SourceDescriptor) :=
  f.pools.map fun entry => (entry.1, (d.pool entry.2).descriptor)

namespace Reconciling

/-- The reconciliation where a descriptor was passed over since it has the name of the configuration
source. -/
def passOver (r : Reconciling) (name : String) : Reconciling :=
  { r with problems := r.problems ++ [.warningAbout name
      "Source '\x7b\x7d' has the configuration source's name and is ignored" [name]] }

/-- The reconciliation where a name is wanted. -/
def want (r : Reconciling) (name : String) : Reconciling :=
  { r with wanted := name :: r.wanted }

/-- The reconciliation where a source stayed as it was. -/
def keep (r : Reconciling) (name : String) : Reconciling :=
  { r with outcome := { r.outcome with unchanged := r.outcome.unchanged ++ [name] } }

/-- The reconciliation where a source was registered, in place of another one or not. -/
def registered (r : Reconciling) (name : String) (existed : Bool) : Reconciling :=
  if existed then
    { r with outcome := { r.outcome with replaced := r.outcome.replaced ++ [name] } }
  else { r with outcome := { r.outcome with added := r.outcome.added ++ [name] } }

/-- The reconciliation where a source could not be registered. -/
def refused (r : Reconciling) (name : String) (fault : Fault) : Reconciling :=
  { r with problems := r.problems ++ [(Problem.errorAbout name
      "Unable to register source '\x7b\x7d'" [name]).causedBy fault.message] }

/-- The reconciliation where a source was removed. -/
def removed (r : Reconciling) (name : String) : Reconciling :=
  { r with outcome := { r.outcome with removed := r.outcome.removed ++ [name] } }

end Reconciling

/-- Whether a descriptor is the one with which a source is registered. -/
def isCurrent (current : Table String (Option SourceDescriptor)) (d : SourceDescriptor) : Bool :=
  match Table.get? current d.name with
  | some (some existing) => existing.same d
  | _ => false

/-- Reconciles with one descriptor. Of several descriptors with one name the first counts. -/
def reconcileOne (id : FederationId) (current : Table String (Option SourceDescriptor))
    (r : Reconciling) (d : SourceDescriptor) : InSystem Reconciling := do
  let f ← fromSystem (System.federation · id)
  if d.name = f.configurationSource then pure (r.passOver d.name)
  else if r.wanted.contains d.name then pure r
  else
    let r := r.want d.name
    if isCurrent current d then pure (r.keep d.name)
    else
      match ← registerSource id d with
      | .ok () => pure (r.registered d.name (Table.contains current d.name))
      | .error fault => pure (r.refused d.name fault)

/-- Removes a source that was configured and is wanted no more. -/
def reconcileRemoval (id : FederationId) (r : Reconciling)
    (entry : String × Option SourceDescriptor) : InSystem Reconciling := do
  if entry.2.isSome && !r.wanted.contains entry.1 then
    if ← removeSource id entry.1 then pure (r.removed entry.1) else pure r
  else pure r

/-- Makes the configured sources agree with a list of descriptors. -/
def applyDescriptors (id : FederationId) (descriptors : List SourceDescriptor) :
    InSystem (Reconciliation × Problems) := do
  let s ← get
  let current := currentDescriptors (s.federation id) s.depot
  let r ← descriptors.foldlM (reconcileOne id current) ⟨[], .none, []⟩
  let r ← current.foldlM (reconcileRemoval id) r
  pure (r.outcome, r.problems)

/-- Reads the descriptors below a configuration root once more and applies them. -/
def reloadSources (id : FederationId) (root : NodePath) (workspace : Option String) :
    InSystem Problems := do
  let f ← fromSystem (System.federation · id)
  if f.state.isClosed then pure []
  else
    let graph : Graph := ⟨id, f.configurationSource, workspace⟩
    let problems ←
      match ← graph.subgraph (Configuration.Container.sources.path root) 1 with
      | .ok container => do
        let (descriptors, problems) :=
          (container.map Configuration.sources).getD ([], [])
        let (_, more) ← applyDescriptors id descriptors
        pure (problems ++ more)
      | .error fault =>
        pure [(Problem.plain .error "Unable to reload source configuration from '\x7b\x7d'"
          [f.configurationSource]).causedBy fault.message]
    writeLog (problems.map fun p => .tagged .warning f.engine p.text)
    withFederation id fun f d => ((), f.recordProblems problems, d)
    pure problems

end ContentEngine
