import ContentEngine.Expression.Basic
import ContentEngine.Value.Basic

/-!
# Configuration records

The children of the configuration containers become records: descriptors of sources, processor
rules and detector rules.
-/

namespace ContentEngine

/-- A source: which connector serves it, and with which properties. -/
structure SourceDescriptor where
  name : String
  connectorType : String
  classpath : List String
  properties : Properties

/-- A rule that sends changed paths to a processor. A rule without expressions never matches. -/
structure ProcessorRule where
  name : String
  description : Option String
  expressions : List PathExpression
  /-- The output template of matches whose expression has none of its own. -/
  outputTemplate : Option String
  classname : String
  classpath : List String
  properties : Properties

/-- A rule that adds a detector of media types. -/
structure DetectorRule where
  name : String
  description : Option String
  classname : String
  classpath : List String
  properties : Properties

namespace SourceDescriptor

/-- Whether two descriptors describe the same source. -/
def same (a b : SourceDescriptor) : Bool :=
  a.name == b.name && a.connectorType == b.connectorType && a.classpath == b.classpath &&
    Value.agreesFields a.properties b.properties

/-- The text under a property. -/
def text? (d : SourceDescriptor) (property : String) : Option String :=
  (Table.get? d.properties property).bind Value.asText?

/-- The descriptor as a value. -/
def toValue (d : SourceDescriptor) : Value :=
  Value.ofFields [
    ("name", .text d.name),
    ("connector_type", .text d.connectorType),
    ("classpath", .list (d.classpath.map .text)),
    ("properties", .object d.properties)]

end SourceDescriptor

namespace ProcessorRule

/-- Whether the rule can match at all. -/
def isMatchable (r : ProcessorRule) : Bool :=
  !r.expressions.isEmpty

/-- The first expression that matches a path, with the groups of the match. -/
def firstMatch? (r : ProcessorRule) (path : NodePath) :
    Option (PathExpression × List (List Char)) :=
  r.expressions.findSome? fun e => (e.groups? path).map fun groups => (e, groups)

/-- The template of a match of an expression: its own, else the rule's, else the whole path. -/
def templateFor (r : ProcessorRule) (e : PathExpression) : String :=
  (e.output.or r.outputTemplate).getD "\x7b0\x7d"

/-- The rule as a value. -/
def toValue (r : ProcessorRule) : Value :=
  Value.ofFields [
    ("name", .text r.name),
    ("description", Value.ofText? r.description),
    ("expressions", .list (r.expressions.map fun e => .text e.expression)),
    ("output_template", Value.ofText? r.outputTemplate),
    ("classname", .text r.classname),
    ("classpath", .list (r.classpath.map .text)),
    ("properties", .object r.properties),
    ("matchable", .bool r.isMatchable)]

end ProcessorRule

/-- The rule as a value. -/
def DetectorRule.toValue (r : DetectorRule) : Value :=
  Value.ofFields [
    ("name", .text r.name),
    ("description", Value.ofText? r.description),
    ("classname", .text r.classname),
    ("classpath", .list (r.classpath.map .text)),
    ("properties", .object r.properties)]

end ContentEngine
