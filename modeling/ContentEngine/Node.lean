import ContentEngine.Change
import ContentEngine.Value.Printer

/-!
# Nodes and subgraphs

A node is what a source holds at a path: named values, and the paths of the children. A subgraph
holds the nodes that were read within some levels below a root path; nodes outside these bounds are
never added.
-/

namespace ContentEngine

/-- What a source holds at a path. -/
structure Node where
  path : NodePath
  properties : Properties
  children : List NodePath

namespace Node

/-- The name of a node: the last segment of its path, nothing for the root. -/
def name (n : Node) : String :=
  n.path.last?.getD ""

/-- The node with one value set. -/
def setProperty (n : Node) (name : String) (value : Value) : Node :=
  { n with properties := Table.insert name value n.properties }

/-- The texts of the values of a property: the members of a list, or the value itself; `null` has
no text. -/
def texts (n : Node) (name : String) : List String :=
  match Table.get? n.properties name with
  | some (.list items) => items.filterMap Value.plainText?
  | some value => (Value.plainText? value).toList
  | none => []

/-- The first text of a property. -/
def text? (n : Node) (name : String) : Option String :=
  (n.texts name).head?

/-- The node as a value. -/
def toValue (n : Node) : Value :=
  Value.ofFields [
    ("path", .text n.path.text),
    ("properties", .object n.properties),
    ("children", .list (n.children.map fun p => .text p.text))]

open Value.Decode in
/-- The node of a value. -/
def ofValue? (v : Value) : Option Node := do
  match ← fields? ["path", "properties", "children"] v with
  | [path, properties, children] =>
    let path ← required path? path
    let properties ← orElse [] object? properties
    let children ← orElse [] (listOf? path?) children
    some ⟨path, properties, children⟩
  | _ => none

end Node

/-- The nodes within some levels below a root path. -/
structure Subgraph where
  root : NodePath
  depth : Nat
  nodes : Table NodePath Node

namespace Subgraph

/-- A subgraph without nodes. -/
def empty (root : NodePath) (depth : Nat) : Subgraph :=
  ⟨root, depth, []⟩

/-- Whether a path lies within the bounds. -/
def covers (g : Subgraph) (path : NodePath) : Bool :=
  path.isAtOrBelow g.root && decide (path.depth - g.root.depth ≤ g.depth)

/-- The subgraph with a node, if its path lies within the bounds. -/
def insert (g : Subgraph) (n : Node) : Subgraph :=
  if g.covers n.path then { g with nodes := Table.insert n.path n g.nodes } else g

/-- The node under a path. -/
def node? (g : Subgraph) (path : NodePath) : Option Node :=
  Table.get? g.nodes path

/-- The node at the root path. -/
def rootNode? (g : Subgraph) : Option Node :=
  g.node? g.root

/-- The children of a path that are in the subgraph, in the order of the node's list. -/
def children (g : Subgraph) (path : NodePath) : List Node :=
  match g.node? path with
  | some n => n.children.filterMap g.node?
  | none => []

/-- The subgraph as a value. -/
def toValue (g : Subgraph) : Value :=
  Value.ofFields [
    ("root", .text g.root.text),
    ("depth", Value.ofNat g.depth),
    ("nodes", Value.ofFields (g.nodes.map fun entry => (entry.1.text, entry.2.toValue)))]

/-- The nodes of an object whose field names are paths. -/
def nodesOfFields? (fields : List (String × Value)) : Option (Table NodePath Node) := do
  let entries ← fields.mapM fun field => do
    let path ← (NodePath.parse field.1).toOption
    let node ← Node.ofValue? field.2
    some (path, node)
  some (Table.ofList entries)

open Value.Decode in
/-- The subgraph of a value. -/
def ofValue? (v : Value) : Option Subgraph := do
  match ← fields? ["root", "depth", "nodes"] v with
  | [root, depth, nodes] =>
    let root ← required path? root
    let depth ← required Value.asNat? depth
    let fields ← required object? nodes
    let nodes ← nodesOfFields? fields
    some ⟨root, depth, nodes⟩
  | _ => none

end Subgraph

end ContentEngine
