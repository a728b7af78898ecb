import ContentEngine.Configuration.Lexicon
import ContentEngine.Configuration.Record
import ContentEngine.Fault
import ContentEngine.Node
import ContentEngine.Problem

/-!
# Reading the configuration tree

Each child of a container becomes a record, and everything that is wrong with it becomes a problem
about that child. A child that cannot be used is left out, and no child affects another one, except
that a name that occurred before is reported. A container that does not exist has no children.
-/

namespace ContentEngine.Configuration

/-- A text that is not made of blanks only. -/
def nonBlank? (text : Option String) : Option String :=
  text.filter fun s => !Text.isBlankText s

/-- The name of a configured child: its readable name if that is not blank, else its node's. -/
def resolvedName (n : Node) : String :=
  (nonBlank? (n.text? readableName)).getD n.name

/-- The properties of a child that are not reserved, by the local parts of their names. -/
def propertyBag (n : Node) : Properties :=
  Table.ofList ((n.properties.filter fun entry => !isReserved entry.1).map fun entry =>
    ((splitName entry.1).2, entry.2))

/-- A child of a container, and whether an earlier child has the same resolved name. -/
structure Child where
  node : Node
  name : String
  repeated : Bool

/-- The children of which the first ones had the names `seen`. -/
def childrenAfter (seen : List String) : List Node → List Child
  | [] => []
  | n :: rest =>
    let name := resolvedName n
    ⟨n, name, seen.contains name⟩ :: childrenAfter (name :: seen) rest

/-- The children of a container that were read. -/
def children (container : Subgraph) : List Child :=
  childrenAfter [] (container.children container.root)

/-- The warning about a name that occurred before. -/
def repetition (kind : Container) (c : Child) : Problems :=
  if c.repeated then
    [.warningAbout c.name "Duplicate \x7b\x7d name '\x7b\x7d'; both definitions are kept"
      [kind.kind, c.name]]
  else []

/-- The record of a child of a container of sources. -/
def sourceOf (c : Child) : Option SourceDescriptor × Problems :=
  match nonBlank? (c.node.text? connectorType) with
  | some type =>
    (some ⟨c.name, type, c.node.texts classpath, propertyBag c.node⟩, repetition .sources c)
  | none =>
    (none, repetition .sources c ++
      [.errorAbout c.name "Source '\x7b\x7d' does not name a connector type (\x7b\x7d)"
        [c.name, connectorType]])

/-- The expression of a text, or the problem with it. -/
def expressionOf (name text : String) : PathExpression ⊕ Problem :=
  match PathExpression.compile text with
  | .ok e => .inl e
  | .error fault =>
    .inr ((Problem.errorAbout name
      "Processor rule '\x7b\x7d' has an invalid path expression '\x7b\x7d'" [name, text]).causedBy
        fault.message)

/-- The problems with the implementation and the number of expressions of a processor rule. -/
def ruleProblems (name class' : String) (written : List String) : Problems :=
  (if class' = "" then
    [.errorAbout name "Processor rule '\x7b\x7d' does not name an implementation (\x7b\x7d)"
      [name, classname]]
  else []) ++
  if written = [] then
    [.warningAbout name "Processor rule '\x7b\x7d' has no path expressions and will never match"
      [name]]
  else []

/-- The record of a child of a container of processor rules. -/
def processorOf (c : Child) : Option ProcessorRule × Problems :=
  let class' := (nonBlank? (c.node.text? classname)).getD ""
  let written := c.node.texts pathExpression
  let read := written.map (expressionOf c.name)
  (some {
    name := c.name
    description := c.node.text? description
    expressions := read.filterMap Sum.getLeft?
    outputTemplate := nonBlank? (c.node.text? outputPath)
    classname := class'
    classpath := c.node.texts classpath
    properties := propertyBag c.node },
   repetition .processors c ++ ruleProblems c.name class' written ++ read.filterMap Sum.getRight?)

/-- The record of a child of a container of detectors. -/
def detectorOf (c : Child) : Option DetectorRule × Problems :=
  match nonBlank? (c.node.text? classname) with
  | some class' =>
    (some ⟨c.name, c.node.text? description, class', c.node.texts classpath, propertyBag c.node⟩,
      repetition .detectors c)
  | none =>
    (none, repetition .detectors c ++
      [.errorAbout c.name "Detector '\x7b\x7d' does not name an implementation (\x7b\x7d)"
        [c.name, classname]])

/-- The records and the problems of the children of a container. -/
def recordsOf {α : Type} (recordOf : Child → Option α × Problems) (container : Subgraph) :
    List α × Problems :=
  let results := (children container).map recordOf
  (results.filterMap Prod.fst, results.flatMap Prod.snd)

/-- The descriptors of a container of sources. -/
def sources (container : Subgraph) : List SourceDescriptor × Problems :=
  recordsOf sourceOf container

/-- The rules of a container of processor rules. -/
def processorRules (container : Subgraph) : List ProcessorRule × Problems :=
  recordsOf processorOf container

/-- The rules of a container of detectors. -/
def detectorRules (container : Subgraph) : List DetectorRule × Problems :=
  recordsOf detectorOf container

/-- What reading a container gave: its subgraph, nothing if it does not exist, or a fault. -/
abbrev ContainerRead := Except Fault (Option Subgraph)

/-- The records and the problems of a container that was read. -/
def recordsOfRead {α : Type} (root : NodePath) (kind : Container)
    (records : Subgraph → List α × Problems) : ContainerRead → List α × Problems
  | .ok (some container) => records container
  | .ok none => ([], [])
  | .error fault =>
    ([], [(Problem.errorAbout kind.name
      "Unable to read configuration container '\x7b\x7d' below '\x7b\x7d'"
      [kind.name, root.text]).causedBy fault.message])

/-- Everything that a configuration tree holds. -/
structure Scan where
  sources : List SourceDescriptor
  processors : List ProcessorRule
  detectors : List DetectorRule
  problems : Problems

/-- The scan of the three containers below a root, as they were read. -/
def scan (root : NodePath) (sourcesRead processorsRead detectorsRead : ContainerRead) : Scan :=
  let s := recordsOfRead root .sources sources sourcesRead
  let p := recordsOfRead root .processors processorRules processorsRead
  let d := recordsOfRead root .detectors detectorRules detectorsRead
  ⟨s.1, p.1, d.1, s.2 ++ p.2 ++ d.2⟩

end ContentEngine.Configuration
