import ContentEngine.Store.Read

/-!
# Connectors and pools

A connector serves a source from a store, in a certain manner: it may take time, refuse to be
initialized or to open connections, and limit the reuse of its connections. A pool keeps the idle
connections of one source. A connection that comes back is kept if the pool is open, the
connection may be used again and there is room; otherwise it is closed.
-/

namespace ContentEngine

/-- How a connector behaves. -/
structure Manner where
  typeName : String
  /-- The milliseconds that initializing and opening a connection take. -/
  delay : Nat
  /-- Why initializing fails. -/
  initializeFailure : Option Failure
  /-- Why opening a connection fails. -/
  connectFailure : Option Failure
  policy : ReusePolicy

namespace Manner

/-- The manner of a store that serves a source itself. -/
def plain : Manner := ⟨"memory", 0, none, none, .always⟩

end Manner

/-- Serves a source from a store. -/
structure Connector where
  store : StoreId
  manner : Manner

/-- Where a new connector takes its store from. -/
inductive StoreChoice where
  /-- A store of its own. -/
  | own (store : Store)
  /-- The store of a name, which is shared. -/
  | shared (name : String)

/-- A connector that has yet to be given its store. -/
structure ConnectorPlan where
  store : StoreChoice
  manner : Manner

namespace ConnectorPlan

/-- The connector over a store of its own that a descriptor asks for. -/
def ofDescriptor (d : SourceDescriptor) : ConnectorPlan :=
  ⟨.own (Store.ofDescriptor d), .plain⟩

end ConnectorPlan

/-- The number of a connection. -/
abbrev ConnectionId := Nat

/-- The number of a pool. -/
abbrev PoolId := Nat

/-- The idle connections of one source. -/
structure Pool where
  source : String
  connector : Connector
  /-- The descriptor of a source that was configured; none for a source that was handed over. -/
  descriptor : Option SourceDescriptor
  /-- The idle connections, the one that came back last in front. -/
  idle : List ConnectionId
  maxIdle : Nat
  closed : Bool

/-- A connection that was borrowed from a pool. -/
structure Loan where
  pool : PoolId
  connection : ConnectionId
  deriving DecidableEq, Repr

namespace Pool

/-- An open pool without idle connections. -/
def new (source : String) (connector : Connector) (descriptor : Option SourceDescriptor)
    (maxIdle : Nat) : Pool :=
  ⟨source, connector, descriptor, [], maxIdle, false⟩

/-- Whether a connection that comes back is kept. -/
def keeps (p : Pool) (c : Connection) : Bool :=
  !p.closed && c.isReusable && decide (p.idle.length < p.maxIdle)

/-- The failure to borrow from a closed pool. -/
def closedFailure (p : Pool) : Failure :=
  .of ("connection pool for '" ++ p.source ++ "' is closed")

/-- The record text of a connection that was borrowed from the pool. -/
def loanText (p : Pool) : String :=
  Text.record "PooledConnection" [("source_name", Text.inQuotes p.source)]

end Pool

end ContentEngine
