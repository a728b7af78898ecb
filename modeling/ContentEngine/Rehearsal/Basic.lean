import ContentEngine.Rehearsal.Plugins
import ContentEngine.Rehearsal.Race
import ContentEngine.System.Engine

/-!
# Rehearsals

A rehearsal drives a system by hand, one operation after the other. It begins with a bus, a
federation, a dispatcher and a processing service, none of which is started. It can build an engine
and then go on with the engine's parts. Connections, loans and pools are kept under handles that
whoever drives the rehearsal chooses; stores are known by their shared names.
-/

namespace ContentEngine

/-- A system that is driven by hand, the parts that operations are about, and the handles. -/
structure Rehearsal where
  system : System
  bus : BusId
  federation : FederationId
  dispatcher : DispatcherId
  service : ServiceId
  engine : Option EngineId
  /-- The connections that were opened without a pool. -/
  connections : Table String ConnectionId
  loans : Table String Loan
  pools : Table String PoolId

namespace Rehearsal

/-- Why an operation did not go through. -/
inductive Trouble where
  | fault (fault : Fault)
  | failure (failure : Failure)
  | store (fault : StoreFault)
  | noConnection
  | noPool
  | noEngine
  /-- The pool size is above what a dispatcher can have. -/
  | tooManyPermits

/-- An operation of a rehearsal. -/
abbrev InRehearsal := ExceptT Trouble (StateM Rehearsal)

/-- Something that happens in the system. -/
def happen {α : Type} (x : InSystem α) : InRehearsal α :=
  modifyGet fun r =>
    let (answer, system) := x.run r.system
    (answer, { r with system := system })

/-- A result that may be a fault. -/
def orFault {α : Type} (x : InSystem (Except Fault α)) : InRehearsal α := do
  match ← happen x with
  | .ok answer => pure answer
  | .error fault => throw (.fault fault)

/-- A result that may be a failure. -/
def orFailure {α : Type} (x : InSystem (Except Failure α)) : InRehearsal α := do
  match ← happen x with
  | .ok answer => pure answer
  | .error failure => throw (.failure failure)

/-- A part of the system. -/
def look {α : Type} (f : System → α) : InRehearsal α := do
  pure (f (← get).system)

/-- The entry of a handle. -/
def held {α : Type} (handles : Rehearsal → Table String α) (missing : Trouble) (handle : String) :
    InRehearsal α := do
  match Table.get? (handles (← get)) handle with
  | some entry => pure entry
  | none => throw missing

/-- A rehearsal at its begin; none if its dispatcher would have too many permits. -/
def begin? (engine configurationSource : String) (problemCapacity maxIdle poolSize : Nat) :
    Option Rehearsal :=
  let make : InSystem (Option Rehearsal) := do
    let bus ← addBus (.new engine problemCapacity)
    let federation ← addFederation (.new engine configurationSource bus
      (registerConnectors .connectors) maxIdle problemCapacity)
    match Dispatcher.new? engine federation poolSize problemCapacity with
    | none => pure none
    | some d =>
      let dispatcher ← addDispatcher d
      let service ← addService (.new engine bus dispatcher [])
      pure (some ⟨← get, bus, federation, dispatcher, service, none, [], [], []⟩)
  (make.run System.empty).1

/-! ## What was recorded -/

/-- Takes the log lines that tell of something amiss; none stays. -/
def takeLog : InRehearsal (List LogLine) :=
  modifyGet fun r =>
    (r.system.log.toList.filter fun line => line.level ≠ .info,
      { r with system := { r.system with log := #[] } })

/-- Takes what observers were told of; none stays. -/
def takeJournal : InRehearsal (List JournalEntry) :=
  modifyGet fun r =>
    (r.system.journal.toList, { r with system := { r.system with journal := #[] } })

/-- Takes what processors noted; none stays. -/
def takeNotes : InRehearsal (List Value) :=
  modifyGet fun r =>
    (r.system.notes.toList, { r with system := { r.system with notes := #[] } })

/-! ## Stores and their connections -/

/-- The number of the store of a name. -/
def storeNamed (name : String) : InRehearsal StoreId :=
  happen (withDepot fun d => d.sharedStore name)

/-- The store of a name. -/
def theStore (name : String) : InRehearsal Store := do
  let id ← storeNamed name
  look fun s => s.depot.store id

/-- Lets a name stand for a new store. -/
def createStore (name : String) (s : Store) : InRehearsal Unit := do
  let _ ← happen (withDepot fun d => d.nameStore name s)

/-- Adjusts the store of a name, about which nothing is announced. -/
def adjustStore (name : String) (f : Store → Store) : InRehearsal Unit := do
  let id ← storeNamed name
  happen (withDepot fun d => ((), d.setStore id (f (d.store id))))

/-- Changes the store of a name. -/
def change {α : Type} (name : String) (f : StoreId → InSystem (Except StoreFault α)) :
    InRehearsal α := do
  let id ← storeNamed name
  match ← happen (f id) with
  | .ok answer => pure answer
  | .error fault => throw (.store fault)

/-- The engine to which stores are bound by hand. -/
def bindingEngine : String := "ctx"

/-- Lets the store of a name serve a source. -/
def bindStore (name source : String) : InRehearsal Binding := do
  let id ← storeNamed name
  let binding : Binding := ⟨bindingEngine, source, (← get).bus⟩
  orFailure do
    match (← fromSystem System.depot).bind ⟨id, .plain⟩ binding with
    | .ok d =>
      modify fun s => s.setDepot d
      pure (.ok binding)
    | .error failure => pure (.error failure)

/-- Opens a connection to the store of a name without a pool. -/
def openConnection (name handle : String) : InRehearsal Connection := do
  let id ← storeNamed name
  let connection ← orFailure (withDepot fun d => d.connect ⟨id, .plain⟩)
  modify fun r => { r with connections := Table.insert handle connection r.connections }
  look fun s => s.depot.connection connection

/-- The connection that was opened without a pool. -/
def openedBy (handle : String) : InRehearsal ConnectionId :=
  held Rehearsal.connections .noConnection handle

/-- Sees whether a connection works. -/
def ping (connection : ConnectionId) : InRehearsal Unit :=
  orFailure (withDepot fun d => d.ping connection)

/-- Closes a connection. -/
def close (connection : ConnectionId) : InRehearsal Unit :=
  happen (withDepot fun d => ((), d.close connection))

/-- Reads through a connection. -/
def read (connection : ConnectionId) (workspace : Option String) (root : NodePath) (depth : Nat) :
    InRehearsal (Option Subgraph) :=
  orFailure (fromSystem fun s => s.depot.read connection workspace root depth)

/-! ## Pools and loans -/

/-- Makes a pool over a connector. -/
def addPool (handle : String) (plan : ConnectorPlan) (descriptor : Option SourceDescriptor)
    (maxIdle : Nat) : InRehearsal Unit := do
  let id ← happen (withDepot fun d =>
    let (connector, d) := d.build plan
    d.addPool (.new handle connector descriptor maxIdle))
  modify fun r => { r with pools := Table.insert handle id r.pools }

/-- The number of the pool of a handle. -/
def poolBy (handle : String) : InRehearsal PoolId :=
  held Rehearsal.pools .noPool handle

/-- The pool of a handle. -/
def thePool (handle : String) : InRehearsal Pool := do
  let id ← poolBy handle
  look fun s => s.depot.pool id

/-- Closes the pool of a handle. -/
def closePool (handle : String) : InRehearsal Unit := do
  let id ← poolBy handle
  happen (withDepot fun d => ((), d.closePool id))

/-- The loan of a handle. -/
def loanBy (handle : String) : InRehearsal Loan :=
  held Rehearsal.loans .noConnection handle

/-- The pool that a loan came from. -/
def lender (loan : Loan) : InRehearsal Pool :=
  look fun s => s.depot.pool loan.pool

/-- Keeps a loan under a handle, and gives back the one that was kept there before. Answers the name
of the source. -/
def keep (handle : String) (loan : Loan) : InRehearsal String := do
  let before := Table.get? (← get).loans handle
  happen (giveBack before)
  modify fun r => { r with loans := Table.insert handle loan r.loans }
  pure (← lender loan).source

/-- Borrows from a pool. -/
def checkout (pool handle : String) : InRehearsal String := do
  let id ← poolBy pool
  keep handle (← orFailure (checkoutFrom id))

/-- Borrows a connection to a source of the federation. -/
def borrow (source handle : String) : InRehearsal String := do
  keep handle (← orFault (borrowConnection (← get).federation source))

/-- Gives the loan of a handle back; tells whether there was one. -/
def release (handle : String) : InRehearsal Bool := do
  match Table.get? (← get).loans handle with
  | none => pure false
  | some loan =>
    happen (giveBack (some loan))
    modify fun r => { r with loans := Table.erase handle r.loans }
    pure true

/-! ## Engines -/

/-- The engine that was built. -/
def engineBuilt : InRehearsal EngineId := do
  match (← get).engine with
  | some id => pure id
  | none => throw .noEngine

/-- The dispatcher whose outcomes count: that of the engine, if one was built. -/
def countedDispatcher : InRehearsal Dispatcher := do
  let r ← get
  pure (r.system.dispatcher (match r.engine with
    | some id => (r.system.engine id).dispatcher
    | none => r.dispatcher))

/-- Builds an engine with the plug-ins for rehearsals. It takes the place of the one before, and its
bus that of the rehearsal. -/
def build (settings : Settings) (configuration : Option ConnectorPlan) : InRehearsal Engine := do
  match ← happen (buildEngine {
      settings := settings
      configuration := configuration
      connectors := registerConnectors .connectors
      processors := registerProcessors .processors
      detectors := registerDetectors .detectors }) with
  | .error (.refused fault) => throw (.fault fault)
  | .error .tooManyPermits => throw .tooManyPermits
  | .ok id =>
    match (← get).engine with
    | some before => happen (abandonEngine before)
    | none => pure ()
    let e ← look fun s => s.engine id
    modify fun r => { r with engine := some id, bus := e.bus }
    pure e

/-- Goes on with the federation of an engine. -/
def turnToFederation (id : EngineId) : InRehearsal Federation := do
  let federation ← orFault (engineFederation id)
  modify fun r => { r with federation := federation }
  look fun s => s.federation federation

/-- Goes on with the processing service of an engine and its dispatcher. -/
def turnToService (id : EngineId) : InRehearsal Service := do
  let service ← orFault (engineService id)
  let v ← look fun s => s.service service
  modify fun r => { r with service := service, dispatcher := v.dispatcher }
  pure v

end Rehearsal

end ContentEngine
