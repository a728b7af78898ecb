import ContentEngine.NodePath

/-!
# Names of the configuration tree

The configuration tree has three containers directly below its root: of sources, of processor rules
and of detectors. Some properties of their children are read explicitly. All others are handed on
in a bag, except those of the namespaces that describe structure.
-/

namespace ContentEngine.Configuration

/-- A container of the configuration tree. -/
inductive Container where
  | sources
  | processors
  | detectors
  deriving DecidableEq, Repr

namespace Container

/-- The name of a container. -/
def name : Container → String
  | sources => "cairn:sources"
  | processors => "cairn:processors"
  | detectors => "cairn:mimeTypeDetectors"

theorem isSegment_name (c : Container) : IsSegment c.name := by
  cases c <;> decide

/-- What messages call a child of a container. -/
def kind : Container → String
  | sources => "source"
  | processors => "processor rule"
  | detectors => "detector"

/-- The path of a container below a configuration root. -/
def path (c : Container) (root : NodePath) : NodePath :=
  root.extend c.name c.isSegment_name

end Container

/-- The property that names a child, in place of the name of its node. -/
def readableName : String := "cairn:readableName"

/-- The property that describes a child. -/
def description : String := "cairn:description"

/-- The property that names an implementation. -/
def classname : String := "cairn:classname"

/-- The property that says where implementations are found. -/
def classpath : String := "cairn:classpath"

/-- The property with the path expressions of a processor rule. -/
def pathExpression : String := "cairn:pathExpression"

/-- The property with the output template of a processor rule. -/
def outputPath : String := "cairn:outputPath"

/-- The property that names the type of a connector. -/
def connectorType : String := "cairn:connectorType"

/-- The properties that are read explicitly. -/
def wellKnown : List String :=
  [readableName, description, classname, classpath, pathExpression, outputPath, connectorType]

/-- The namespaces that describe structure. -/
def structural : List String := ["jcr", "nt", "mix"]

/-- The namespace and the local part of a name: what stands before and after its first colon. -/
def splitName (name : String) : Option String × String :=
  match Text.cutOnce [':'] name.toList with
  | some (before, after) => (some (String.ofList before), String.ofList after)
  | none => (none, name)

/-- Whether a property does not belong into the bag. -/
def isReserved (name : String) : Bool :=
  wellKnown.contains name ||
    match (splitName name).1 with
    | some space => structural.contains space
    | none => false

end ContentEngine.Configuration
