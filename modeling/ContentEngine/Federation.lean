import ContentEngine.Dispatch.Dispatcher
import ContentEngine.Plugin.Registry
import ContentEngine.Source.Depot

/-!
# Federations

A federation maps the names of sources to pools of connections and is the one place where a name is
resolved to a connection. Sources are described by configuration or served by a connector that was
handed over. A source that is registered again is replaced: its pool is closed, and connections
that are still borrowed are closed when they come back. Once a shutdown has begun no source can be
registered and no connection can be borrowed.

Initializing a connector and opening a connection may take time, during which anything can happen to
the federation. Registering and borrowing are therefore each cut in two where that time passes.
-/

namespace ContentEngine

/-- Maps the names of sources to pools of connections. -/
structure Federation where
  engine : String
  /-- The name of the source that holds the configuration tree. -/
  configurationSource : String
  bus : BusId
  connectors : Registry SourceDescriptor ConnectorPlan
  maxIdle : Nat
  lifecycle : Lifecycle
  pools : Table String PoolId
  problems : Problems
  problemCapacity : Nat

/-- The connector types known without registration: stores in memory. -/
def Registry.connectors : Registry SourceDescriptor ConnectorPlan :=
  (Registry.empty "connector type" SourceDescriptor.connectorType).register "memory"
    fun d => .ok (ConnectorPlan.ofDescriptor d)

/-- How far borrowing a connection has come. -/
inductive Borrowing where
  | done (loan : Loan)
  | failed (fault : Fault)
  /-- The connection is being opened, which takes the given milliseconds. -/
  | opening (opening : Opening) (millis : Nat)

namespace Federation

/-- A federation without sources that is not started. -/
def new (engine configurationSource : String) (bus : BusId)
    (connectors : Registry SourceDescriptor ConnectorPlan) (maxIdle problemCapacity : Nat) :
    Federation where
  engine := engine
  configurationSource := configurationSource
  bus := bus
  connectors := connectors
  maxIdle := maxIdle
  lifecycle := .new "federation" engine
  pools := []
  problems := []
  problemCapacity := max problemCapacity 1

instance : Inhabited Federation := ⟨new "" "" 0 .connectors 0 1⟩

/-- The state of the federation. -/
def state (f : Federation) : LifecycleState :=
  f.lifecycle.state

/-- The record text of a federation. -/
def recordText (f : Federation) : String :=
  Text.record "Federation" [
    ("engine_id", Text.inQuotes f.engine),
    ("configuration_source", Text.inQuotes f.configurationSource),
    ("state", f.state.name)]

/-- Starts the federation. -/
def start (f : Federation) : Except Fault Federation × List LogLine :=
  match f.lifecycle.beginStart with
  | (_, .error fault) => (.error fault, [])
  | (lifecycle, .ok false) => (.ok { f with lifecycle := lifecycle }, [])
  | (lifecycle, .ok true) =>
    (.ok { f with lifecycle := lifecycle.markRunning }, [.starting "federation" f.engine])

/-- Shuts the federation down and closes all pools; the names stay registered. -/
def shutdown (f : Federation) (d : Depot) : Federation × Depot × List LogLine :=
  match f.lifecycle.beginShutdown with
  | (_, .alreadyShuttingDown) => (f, d, [])
  | (lifecycle, _) =>
    ({ f with lifecycle := lifecycle.markTerminated },
      f.pools.foldl (fun d entry => d.closePool entry.2) d,
      [.stopping "federation" f.engine])

/-- Passes unless a shutdown has begun. -/
def requireOpen (f : Federation) : Except Fault Unit :=
  if f.state.isClosed then
    .error (.notRunning ("Federation for engine '" ++ f.engine ++ "' is shut down"))
  else .ok ()

/-! ## Sources -/

/-- The names of the sources in ascending order. -/
def sources (f : Federation) : List String :=
  Table.keys f.pools

/-- Whether a source is registered. -/
def contains (f : Federation) (name : String) : Bool :=
  Table.contains f.pools name

/-- The descriptor of a source that was configured. -/
def descriptor? (f : Federation) (d : Depot) (name : String) : Option SourceDescriptor :=
  (Table.get? f.pools name).bind fun id => (d.pool id).descriptor

/-- The plan of the connector that a descriptor asks for. -/
def planFor (f : Federation) (descriptor : SourceDescriptor) : Except Fault ConnectorPlan :=
  match f.connectors.create descriptor with
  | .ok plan => .ok plan
  | .error failure =>
    .error (.invalidConfiguration
      ("Source '" ++ descriptor.name ++ "': " ++ failure.outermost))

/-- Ends the registration of a source once the time has passed that its connector takes to be
initialized: binds the store, adds a pool and closes the pool of the source that is replaced. -/
def install (f : Federation) (d : Depot) (name : String) (connector : Connector)
    (descriptor : Option SourceDescriptor) : Except Fault Unit × Federation × Depot :=
  match d.bind connector ⟨f.engine, name, f.bus⟩ with
  | .error failure => (.error (.connection name failure), f, d)
  | .ok d =>
    match f.requireOpen with
    | .error fault => (.error fault, f, d)
    | .ok () =>
      let (pool, d) := d.addPool (.new name connector descriptor f.maxIdle)
      let d :=
        match Table.get? f.pools name with
        | some old => d.closePool old
        | none => d
      (.ok (), { f with pools := Table.insert name pool f.pools }, d)

/-- Removes a source and closes its pool; tells whether there was one. -/
def remove (f : Federation) (d : Depot) (name : String) : Bool × Federation × Depot :=
  match Table.get? f.pools name with
  | some pool => (true, { f with pools := Table.erase name f.pools }, d.closePool pool)
  | none => (false, f, d)

/-! ## Borrowing connections -/

/-- Asks the pool of a source for a connection. If the pool refuses, `refused` says what comes of
it. -/
def borrowWith (f : Federation) (d : Depot) (name : String) (last : Bool)
    (refused : Depot → PoolId → Failure → Borrowing × Depot) : Borrowing × Depot :=
  match f.requireOpen with
  | .error fault => (.failed fault, d)
  | .ok () =>
    match Table.get? f.pools name with
    | none => (.failed (.unknownSource name), d)
    | some pool =>
      match d.checkout pool with
      | (.borrowed loan, d) => (.done loan, d)
      | (.refused failure, d) => refused d pool failure
      | (.opening millis, d) => (.opening ⟨name, pool, last⟩ millis, d)

/-- Asks once more, after the source was replaced or removed. -/
def borrowAgain (f : Federation) (d : Depot) (name : String) : Borrowing × Depot :=
  f.borrowWith d name true fun d _ failure => (.failed (.connection name failure), d)

/-- What comes of a first attempt that was refused: another one if the pool is closed by now. -/
def afterRefusal (f : Federation) (name : String) (d : Depot) (pool : PoolId) (failure : Failure) :
    Borrowing × Depot :=
  if (d.pool pool).closed then f.borrowAgain d name
  else (.failed (.connection name failure), d)

/-- Asks for a connection to a source. -/
def borrow (f : Federation) (d : Depot) (name : String) : Borrowing × Depot :=
  f.borrowWith d name false (f.afterRefusal name)

/-- Goes on once the time has passed that opening the connection takes. -/
def resumeBorrow (f : Federation) (d : Depot) (o : Opening) : Borrowing × Depot :=
  match d.finishOpening o.pool with
  | (.ok loan, d) => (.done loan, d)
  | (.error failure, d) =>
    if o.last then (.failed (.connection o.source failure), d)
    else f.afterRefusal o.source d o.pool failure

/-! ## Problems -/

/-- The federation that has recorded the problems of a reload. -/
def recordProblems (f : Federation) (problems : Problems) : Federation :=
  { f with problems := Problems.pushAllBounded f.problems problems f.problemCapacity }

end Federation

end ContentEngine
