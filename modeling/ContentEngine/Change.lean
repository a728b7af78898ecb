import ContentEngine.NodePath
import ContentEngine.Timestamp
import ContentEngine.Value.Decode

/-!
# Change events

A change event tells that paths under one source changed. The source numbers its events, so
observers can see whether one is missing; an event of a store also names the workspace.
-/

namespace ContentEngine

/-- What happened to the paths of an event. -/
inductive ChangeKind where
  | added
  | modified
  | removed
  | moved
  deriving DecidableEq, Repr

namespace ChangeKind

/-- The label of a kind in an event's text. -/
def label : ChangeKind → String
  | added => "added"
  | modified => "modified"
  | removed => "removed"
  | moved => "moved"

/-- The name of a kind in a value. -/
def name : ChangeKind → String
  | added => "Added"
  | modified => "Modified"
  | removed => "Removed"
  | moved => "Moved"

/-- The kind of a name. -/
def ofName? : String → Option ChangeKind
  | "Added" => some added
  | "Modified" => some modified
  | "Removed" => some removed
  | "Moved" => some moved
  | _ => none

end ChangeKind

/-- A notice that paths under one source changed. -/
structure ChangeEvent where
  source : String
  workspace : Option String
  paths : List NodePath
  kind : ChangeKind
  sequence : Nat
  timestamp : Timestamp
  deriving DecidableEq

namespace ChangeEvent

/-- Whether one of the paths is at or below `path`, or above it. -/
def touches (e : ChangeEvent) (path : NodePath) : Bool :=
  e.paths.any fun p => p.isAtOrBelow path || path.isBelow p

/-- The text of an event. -/
def text (e : ChangeEvent) : String :=
  e.source ++ "#" ++ toString e.sequence ++ " " ++ e.kind.label ++ " [" ++
    Text.joined ", " (e.paths.map NodePath.text) ++ "]"

/-- The event as a value. -/
def toValue (e : ChangeEvent) : Value :=
  Value.ofFields ([
    ("source_name", .text e.source),
    ("paths", .list (e.paths.map fun p => .text p.text)),
    ("kind", .text e.kind.name),
    ("sequence", Value.ofNat e.sequence),
    ("timestamp", .text e.timestamp.text)] ++
    match e.workspace with
    | some workspace => [("workspace", Value.text workspace)]
    | none => [])

end ChangeEvent

namespace Value.Decode

/-- A path, by its text. -/
def path? : Value → Option NodePath
  | text s => (NodePath.parse s).toOption
  | _ => none

end Value.Decode

open Value.Decode in
/-- The location of a value. -/
def Location.ofValue? (v : Value) : Option Location := do
  match ← fields? ["source_name", "path"] v with
  | [source, path] =>
    let source ← required Value.asText? source
    let path ← required path? path
    some ⟨source, path⟩
  | _ => none

/-- The location as a value. -/
def Location.toValue (l : Location) : Value :=
  Value.ofFields [("source_name", .text l.source), ("path", .text l.path.text)]

open Value.Decode in
/-- The event of a value. -/
def ChangeEvent.ofValue? (v : Value) : Option ChangeEvent := do
  let fields ← fields? ["source_name", "workspace", "paths", "kind", "sequence", "timestamp"] v
  match fields with
  | [source, workspace, paths, kind, sequence, timestamp] =>
    let source ← required Value.asText? source
    let workspace ← orElse none textOrNull? workspace
    let paths ← required (listOf? path?) paths
    let kind ← required (fun v => (variant? v).bind ChangeKind.ofName?) kind
    let sequence ← required Value.asNat? sequence
    let timestamp ← required (fun v => v.asText?.bind Timestamp.read?) timestamp
    some ⟨source, workspace, paths, kind, sequence, timestamp⟩
  | _ => none

end ContentEngine
