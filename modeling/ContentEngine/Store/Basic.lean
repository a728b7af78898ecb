import ContentEngine.Change
import ContentEngine.Configuration.Record
import ContentEngine.Fault
import ContentEngine.Node
import ContentEngine.Text.Record

/-!
# Stores

A store keeps named workspaces in memory. A workspace is a table of nodes by path that holds its
root and, with each node, the node's parent. Changes are made under a path that is given as text;
a change that cannot be made is refused and leaves the store as it was. A store that is bound to a
source numbers its changes from 1 on and announces each of them with one event.
-/

namespace ContentEngine

/-- The nodes of a workspace: their properties by path. -/
abbrev Workspace := Table NodePath Properties

namespace Workspace

/-- The workspace that holds the root only. -/
def fresh : Workspace := [(NodePath.root, [])]

/-- The nodes at or below a path. Paths are ordered segment by segment, so these nodes follow one
another. -/
def subtree (nodes : Workspace) (path : NodePath) : Workspace :=
  (nodes.dropWhile fun entry => entry.1 < path).takeWhile fun entry => entry.1.isAtOrBelow path

/-- The workspace without the given nodes. -/
def without (nodes removed : Workspace) : Workspace :=
  removed.foldl (fun left entry => Table.erase entry.1 left) nodes

/-- The workspace with all nodes above a path; those that are missing have no properties. -/
def withAncestors (nodes : Workspace) (path : NodePath) : Workspace :=
  path.ancestors.foldl (fun nodes above => Table.insertNew above [] nodes) nodes

/-- The workspace with a node and all nodes above it. -/
def put (nodes : Workspace) (path : NodePath) (properties : Properties) : Workspace :=
  Table.insert path properties (nodes.withAncestors path)

/-- The workspace with the subtree at `source` at `target` instead. -/
def relocate (nodes : Workspace) (source target : NodePath) : Workspace :=
  let moved := nodes.subtree source
  moved.foldl (fun nodes entry => Table.insert (entry.1.rebase source target) entry.2 nodes)
    ((nodes.without moved).withAncestors target)

end Workspace

/-- The number of a change bus. -/
abbrev BusId := Nat

/-- The number of a store. -/
abbrev StoreId := Nat

/-- The source that a store serves, and the bus on which its changes are announced. -/
structure Binding where
  engine : String
  source : String
  bus : BusId
  deriving DecidableEq, Repr

namespace Binding

/-- The record text of a binding. -/
def recordText (b : Binding) : String :=
  Text.record "ConnectorContext" [
    ("engine_id", Text.inQuotes b.engine),
    ("source_name", Text.inQuotes b.source),
    ("bus", Text.inQuotes "<ChangeBus>")]

end Binding

/-- Named workspaces in memory. -/
structure Store where
  defaultWorkspace : String
  workspaces : Table String Workspace
  binding : Option Binding
  /-- The number of the last change that was announced. -/
  sequence : Nat
  /-- Whether connections fail, as if the store were out of reach. -/
  unavailable : Bool

/-- Why a change of a store is refused. -/
inductive StoreFault where
  | path (error : PathError)
  | noWorkspace (name : String)
  | noNode (path : NodePath)
  | rootRemoval
  | belowItself (path : NodePath)
  | nodeExists (path : NodePath)
  deriving DecidableEq

namespace StoreFault

/-- The text of a refusal. -/
def message : StoreFault → String
  | path e => e.message
  | noWorkspace name => "workspace '" ++ name ++ "' does not exist"
  | noNode p => "node '" ++ p.text ++ "' does not exist"
  | rootRemoval => "the root node cannot be removed"
  | belowItself p => "cannot move '" ++ p.text ++ "' below itself"
  | nodeExists p => "node '" ++ p.text ++ "' already exists"

end StoreFault

/-- What changed in a store. -/
structure Change where
  workspace : String
  kind : ChangeKind
  paths : List NodePath
  deriving DecidableEq

namespace Store

/-- The usual name of the default workspace. -/
def usualWorkspace : String := "default"

/-- A store with a default workspace and more workspaces, all without content. -/
def withWorkspaces (defaultWorkspace : String) (more : List String) : Store where
  defaultWorkspace := defaultWorkspace
  workspaces := more.foldl (fun table name => Table.insertNew name Workspace.fresh table)
    [(defaultWorkspace, Workspace.fresh)]
  binding := none
  sequence := 0
  unavailable := false

/-- A store with the usual workspace. -/
def new : Store :=
  withWorkspaces usualWorkspace []

/-- The default workspace that a descriptor names. -/
def defaultWorkspaceOf (d : SourceDescriptor) : String :=
  (d.text? "defaultWorkspace").getD usualWorkspace

/-- The further workspaces that a descriptor names: one, or a list of them. -/
def furtherWorkspacesOf (d : SourceDescriptor) : List String :=
  match Table.get? d.properties "workspaces" with
  | some (.list names) => names.filterMap Value.asText?
  | some (.text name) => [name]
  | _ => []

/-- The store that a descriptor asks for. -/
def ofDescriptor (d : SourceDescriptor) : Store :=
  withWorkspaces (defaultWorkspaceOf d) (furtherWorkspacesOf d)

/-- The nodes of a workspace. -/
def workspace? (s : Store) (name : String) : Option Workspace :=
  Table.get? s.workspaces name

/-- The nodes of a workspace that has to exist. -/
def requireWorkspace (s : Store) (name : String) : Except StoreFault Workspace :=
  match s.workspace? name with
  | some nodes => .ok nodes
  | none => .error (.noWorkspace name)

/-- The store with the nodes of a workspace replaced. -/
def setWorkspace (s : Store) (name : String) (nodes : Workspace) : Store :=
  { s with workspaces := Table.insert name nodes s.workspaces }

/-- The store with a workspace, without content if it is new. -/
def createWorkspace (s : Store) (name : String) : Store :=
  { s with workspaces := Table.insertNew name Workspace.fresh s.workspaces }

/-- The properties of a node of the default workspace. -/
def node? (s : Store) (path : String) : Option Properties :=
  match NodePath.parse path, s.workspace? s.defaultWorkspace with
  | .ok path, some nodes => Table.get? nodes path
  | _, _ => none

/-- The path of a text. -/
def readPath (text : String) : Except StoreFault NodePath :=
  match NodePath.parse text with
  | .ok path => .ok path
  | .error e => .error (.path e)

/-! ## Changes -/

/-- Creates or replaces a node of a workspace; nodes above it are created where they are missing. -/
def putIn (s : Store) (workspace path : String) (properties : Properties) :
    Except StoreFault (Store × Change) := do
  let path ← readPath path
  let nodes ← s.requireWorkspace workspace
  let kind := if Table.contains nodes path then ChangeKind.modified else ChangeKind.added
  .ok (s.setWorkspace workspace (nodes.put path properties), ⟨workspace, kind, [path]⟩)

/-- Creates or replaces a node of the default workspace. -/
def put (s : Store) (path : String) (properties : Properties) :
    Except StoreFault (Store × Change) :=
  s.putIn s.defaultWorkspace path properties

/-- Sets one property of a node of the default workspace. -/
def setProperty (s : Store) (path name : String) (value : Value) :
    Except StoreFault (Store × Change) := do
  let path ← readPath path
  let nodes ← s.requireWorkspace s.defaultWorkspace
  match Table.get? nodes path with
  | none => .error (.noNode path)
  | some properties =>
    let properties := Table.insert name value properties
    .ok (s.setWorkspace s.defaultWorkspace (Table.insert path properties nodes),
      ⟨s.defaultWorkspace, .modified, [path]⟩)

/-- Removes a node of the default workspace and all nodes below it; no change if there is none. -/
def remove (s : Store) (path : String) : Except StoreFault (Store × Option Change) := do
  let path ← readPath path
  if path.isRoot then .error .rootRemoval
  else
    let nodes ← s.requireWorkspace s.defaultWorkspace
    let removed := nodes.subtree path
    if removed.isEmpty then .ok (s, none)
    else
      .ok (s.setWorkspace s.defaultWorkspace (nodes.without removed),
        some ⟨s.defaultWorkspace, .removed, [path]⟩)

/-- Moves a node of the default workspace and all nodes below it to a path that is free. -/
def move (s : Store) (source target : String) : Except StoreFault (Store × Change) := do
  let source ← readPath source
  let target ← readPath target
  if target.isAtOrBelow source then .error (.belowItself source)
  else
    let nodes ← s.requireWorkspace s.defaultWorkspace
    if !Table.contains nodes source then .error (.noNode source)
    else if Table.contains nodes target then .error (.nodeExists target)
    else
      .ok (s.setWorkspace s.defaultWorkspace (nodes.relocate source target),
        ⟨s.defaultWorkspace, .moved, [source, target]⟩)

/-- The event about a change with the bus it goes to, if the store is bound, and the store that has
counted it. -/
def announce (s : Store) (time : Timestamp) (change : Change) :
    Store × Option (BusId × ChangeEvent) :=
  match s.binding with
  | none => (s, none)
  | some b =>
    let sequence := s.sequence + 1
    ({ s with sequence := sequence },
      some (b.bus, {
        source := b.source
        workspace := some change.workspace
        paths := change.paths
        kind := change.kind
        sequence := sequence
        timestamp := time }))

end Store

end ContentEngine
