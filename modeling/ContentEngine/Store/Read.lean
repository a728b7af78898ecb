import ContentEngine.Store.Basic

/-!
# Reading stores

Stores are read through connections, some levels below a root path at a time. A connection keeps
the name of the source that its store served when the connection was opened, and refuses all reads
once it is closed or while the store is out of reach.
-/

namespace ContentEngine

namespace Workspace

/-- The paths exactly one level below a path, in ascending order. -/
def childPaths (nodes : Workspace) (path : NodePath) : List NodePath :=
  ((nodes.subtree path).map Prod.fst).filter fun p => p.depth == path.depth + 1

/-- The nodes at or below a root path and at most `depth` levels below it, each with the paths of
all its children. -/
def subgraph? (nodes : Workspace) (root : NodePath) (depth : Nat) : Option Subgraph :=
  if Table.contains nodes root then
    some (((nodes.subtree root).filter fun entry => entry.1.depth - root.depth ≤ depth).foldl
      (fun graph entry =>
        graph.insert ⟨entry.1, entry.2, nodes.childPaths entry.1⟩)
      (Subgraph.empty root depth))
  else none

end Workspace

/-- When a connection may be used again after it was returned. -/
inductive ReusePolicy where
  | always
  | never
  /-- Until it was pinged. -/
  | untilPinged
  deriving DecidableEq, Repr

/-- A connection to a store. -/
structure Connection where
  store : StoreId
  /-- The name of the source that the store served when the connection was opened. -/
  source : String
  policy : ReusePolicy
  pinged : Bool
  closed : Bool
  deriving DecidableEq, Repr

namespace Connection

/-- Whether the connection may be used again. -/
def isReusable (c : Connection) : Bool :=
  match c.policy with
  | .always => true
  | .never => false
  | .untilPinged => !c.pinged

/-- Whether the store can be reached through the connection. -/
def ping (c : Connection) (s : Store) : Except Failure Unit :=
  if c.closed then .error (.of ("connection to '" ++ c.source ++ "' is closed"))
  else if s.unavailable then
    .error (.of ("in-memory store for '" ++ c.source ++ "' is unavailable"))
  else .ok ()

/-- The nodes of a workspace, the default one if none is named, at most `depth` levels below a root
path; nothing if there is no node at the root path. -/
def read (c : Connection) (s : Store) (workspace : Option String) (root : NodePath) (depth : Nat) :
    Except Failure (Option Subgraph) := do
  c.ping s
  let name := workspace.getD s.defaultWorkspace
  match s.workspace? name with
  | some nodes => .ok (nodes.subgraph? root depth)
  | none =>
    .error (.of ("workspace '" ++ name ++ "' does not exist in '" ++ c.source ++ "'"))

end Connection

namespace Store

/-- What connections to the store call its source. -/
def sourceLabel (s : Store) : String :=
  match s.binding with
  | some b => b.source
  | none => "memory"

/-- A connection to the store, which has the given number. -/
def connect (s : Store) (id : StoreId) (policy : ReusePolicy) : Except Failure Connection :=
  if s.unavailable then
    .error (.of ("in-memory store for '" ++ s.sourceLabel ++ "' is unavailable"))
  else .ok ⟨id, s.sourceLabel, policy, false, false⟩

end Store

end ContentEngine
