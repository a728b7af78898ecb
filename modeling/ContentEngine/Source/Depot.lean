import ContentEngine.Source.Pool

/-!
# The depot

The depot holds all stores, all connections that were ever opened and all pools, each under its
number. Stores can also be shared by name; such a store is made when its name is first used.

A connection is borrowed from a pool in two steps if its connector takes time to open connections:
first the pool hands out an idle connection, refuses, or starts to open a connection, and later the
opening ends. A pool that is closed in between still hands out the connection; it is closed when
it comes back.
-/

namespace ContentEngine

instance : Inhabited Store := ⟨Store.new⟩

instance : Inhabited Connection := ⟨⟨0, "", .never, false, true⟩⟩

instance : Inhabited Pool := ⟨Pool.new "" ⟨0, .plain⟩ none 0⟩

/-- All stores, connections and pools. -/
structure Depot where
  stores : Array Store
  names : Table String StoreId
  connections : Array Connection
  pools : Array Pool

namespace Depot

/-- The depot without content. -/
def empty : Depot := ⟨#[], [], #[], #[]⟩

/-! ## Stores -/

/-- The store of a number. -/
def store (d : Depot) (id : StoreId) : Store :=
  d.stores.getD id default

/-- The depot with one store changed. -/
def setStore (d : Depot) (id : StoreId) (s : Store) : Depot :=
  { d with stores := d.stores.setIfInBounds id s }

/-- The depot with one more store, and the number of that store. -/
def addStore (d : Depot) (s : Store) : StoreId × Depot :=
  (d.stores.size, { d with stores := d.stores.push s })

/-- The number of the store of a name, which is made if the name is new. -/
def sharedStore (d : Depot) (name : String) : StoreId × Depot :=
  match Table.get? d.names name with
  | some id => (id, d)
  | none =>
    let (id, d) := d.addStore Store.new
    (id, { d with names := Table.insert name id d.names })

/-- The depot where a name stands for a new store. -/
def nameStore (d : Depot) (name : String) (s : Store) : StoreId × Depot :=
  let (id, d) := d.addStore s
  (id, { d with names := Table.insert name id d.names })

/-- The connector of a plan. -/
def build (d : Depot) (plan : ConnectorPlan) : Connector × Depot :=
  let (id, d) :=
    match plan.store with
    | .own s => d.addStore s
    | .shared name => d.sharedStore name
  (⟨id, plan.manner⟩, d)

/-- Binds the store of a connector, unless the connector refuses to be initialized. -/
def bind (d : Depot) (c : Connector) (binding : Binding) : Except Failure Depot :=
  match c.manner.initializeFailure with
  | some failure => .error failure
  | none => .ok (d.setStore c.store { d.store c.store with binding := some binding })

/-! ## Connections -/

/-- The connection of a number. -/
def connection (d : Depot) (id : ConnectionId) : Connection :=
  d.connections.getD id default

/-- How many connections to a store were ever opened. -/
def openedCount (d : Depot) (id : StoreId) : Nat :=
  d.connections.toList.countP fun c => c.store == id

/-- How many connections to a store are not closed. -/
def openCount (d : Depot) (id : StoreId) : Nat :=
  d.connections.toList.countP fun c => c.store == id && !c.closed

/-- A new connection of a connector. -/
def connect (d : Depot) (c : Connector) : Except Failure ConnectionId × Depot :=
  match c.manner.connectFailure with
  | some failure => (.error failure, d)
  | none =>
    match (d.store c.store).connect c.store c.manner.policy with
    | .error failure => (.error failure, d)
    | .ok connection =>
      (.ok d.connections.size, { d with connections := d.connections.push connection })

/-- The depot with a connection closed. -/
def close (d : Depot) (id : ConnectionId) : Depot :=
  { d with connections := d.connections.modify id fun c => { c with closed := true } }

/-- Whether the store behind a connection can be reached. -/
def ping (d : Depot) (id : ConnectionId) : Except Failure Unit × Depot :=
  let c := d.connection id
  (c.ping (d.store c.store),
    { d with connections := d.connections.modify id fun c => { c with pinged := true } })

/-- Reads through a connection. -/
def read (d : Depot) (id : ConnectionId) (workspace : Option String) (root : NodePath)
    (depth : Nat) : Except Failure (Option Subgraph) :=
  let c := d.connection id
  c.read (d.store c.store) workspace root depth

/-! ## Pools -/

/-- The pool of a number. -/
def pool (d : Depot) (id : PoolId) : Pool :=
  d.pools.getD id default

/-- The depot with one more pool, and the number of that pool. -/
def addPool (d : Depot) (p : Pool) : PoolId × Depot :=
  (d.pools.size, { d with pools := d.pools.push p })

/-- What comes of asking a pool for a connection. -/
inductive Checkout where
  | borrowed (loan : Loan)
  | refused (failure : Failure)
  /-- The connection is being opened, which takes the given milliseconds. -/
  | opening (millis : Nat)

/-- Ends the opening of a connection for a pool. -/
def finishOpening (d : Depot) (id : PoolId) : Except Failure Loan × Depot :=
  match d.connect (d.pool id).connector with
  | (.ok connection, d) => (.ok ⟨id, connection⟩, d)
  | (.error failure, d) => (.error failure, d)

/-- Asks a pool for a connection. -/
def checkout (d : Depot) (id : PoolId) : Checkout × Depot :=
  let p := d.pool id
  if p.closed then (.refused p.closedFailure, d)
  else
    match p.idle with
    | connection :: rest =>
      (.borrowed ⟨id, connection⟩, { d with pools := d.pools.modify id ({ · with idle := rest }) })
    | [] =>
      if p.connector.manner.delay = 0 then
        match d.finishOpening id with
        | (.ok loan, d) => (.borrowed loan, d)
        | (.error failure, d) => (.refused failure, d)
      else (.opening p.connector.manner.delay, d)

/-- Gives a borrowed connection back. -/
def release (d : Depot) (loan : Loan) : Depot :=
  if (d.pool loan.pool).keeps (d.connection loan.connection) then
    { d with
      pools := d.pools.modify loan.pool fun p => { p with idle := loan.connection :: p.idle } }
  else d.close loan.connection

/-- Closes a pool and its idle connections. -/
def closePool (d : Depot) (id : PoolId) : Depot :=
  let p := d.pool id
  let d := { d with pools := d.pools.modify id ({ · with closed := true, idle := [] }) }
  p.idle.foldl close d

end Depot

end ContentEngine
