import ContentEngine.Text.Cut
import ContentEngine.Value.Decode

/-!
# Problems

A problem is a diagnostic kept as data: a severity, a message template with its parameters, and
optionally what the problem is about and what caused it. Configuration scans and jobs append
problems to lists, and logs of running components keep the newest of them only.
-/

namespace ContentEngine

/-- How grave a problem is, gravest first. -/
inductive Severity where
  | error
  | warning
  | info
  deriving DecidableEq, Repr

namespace Severity

/-- The label of a severity in a problem's text. -/
def label : Severity → String
  | error => "ERROR"
  | warning => "WARNING"
  | info => "INFO"

/-- The name of a severity in a value. -/
def name : Severity → String
  | error => "Error"
  | warning => "Warning"
  | info => "Info"

/-- The severity of a name. -/
def ofName? : String → Option Severity
  | "Error" => some error
  | "Warning" => some warning
  | "Info" => some info
  | _ => none

/-- The place of a severity, gravest first. -/
def rank : Severity → Nat
  | error => 0
  | warning => 1
  | info => 2

end Severity

/-- A diagnostic. -/
structure Problem where
  severity : Severity
  template : String
  parameters : List String
  resource : Option String
  cause : Option String
  deriving DecidableEq, Repr

/-- Problems in the order in which they were found. -/
abbrev Problems := List Problem

namespace Problem

/-- The template with its placeholders, two braces, filled from left to right. A placeholder without
a parameter stays, and surplus parameters are left out. -/
def fillTemplate : List String → List Char → List Char
  | _, [] => []
  | p :: others, '\x7b' :: '\x7d' :: more => p.toList ++ fillTemplate others more
  | [], '\x7b' :: '\x7d' :: more => '\x7b' :: '\x7d' :: fillTemplate [] more
  | parameters, c :: rest => c :: fillTemplate parameters rest

/-- The message of a problem. -/
def message (p : Problem) : String :=
  String.ofList (fillTemplate p.parameters p.template.toList)

/-- The text of a problem. -/
def text (p : Problem) : String :=
  p.severity.label ++ ": " ++ p.message ++
    (match p.resource with
      | some resource => " [" ++ resource ++ "]"
      | none => "") ++
    (match p.cause with
      | some cause => " (caused by: " ++ cause ++ ")"
      | none => "")

/-- Whether the problem is an error. -/
def isError (p : Problem) : Bool :=
  p.severity = .error

/-- A problem of the given severity about nothing in particular. -/
def plain (severity : Severity) (template : String) (parameters : List String) : Problem :=
  ⟨severity, template, parameters, none, none⟩

/-- An error about `resource`. -/
def errorAbout (resource : String) (template : String) (parameters : List String) : Problem :=
  ⟨.error, template, parameters, some resource, none⟩

/-- A warning about `resource`. -/
def warningAbout (resource : String) (template : String) (parameters : List String) : Problem :=
  ⟨.warning, template, parameters, some resource, none⟩

/-- The problem with a cause. -/
def causedBy (p : Problem) (cause : String) : Problem :=
  { p with cause := some cause }

/-- The problem as a value. -/
def toValue (p : Problem) : Value :=
  Value.ofFields [
    ("severity", .text p.severity.name),
    ("template", .text p.template),
    ("parameters", .list (p.parameters.map .text)),
    ("resource", Value.ofText? p.resource),
    ("cause", Value.ofText? p.cause)]

open Value.Decode in
/-- The problem of a value. -/
def ofValue? (v : Value) : Option Problem := do
  match ← fields? ["severity", "template", "parameters", "resource", "cause"] v with
  | [severity, template, parameters, resource, cause] =>
    let severity ← required (fun v => (variant? v).bind Severity.ofName?) severity
    let template ← required Value.asText? template
    let parameters ← orElse [] (listOf? Value.asText?) parameters
    let resource ← orElse none textOrNull? resource
    let cause ← orElse none textOrNull? cause
    some ⟨severity, template, parameters, resource, cause⟩
  | _ => none

end Problem

namespace Problems

/-- Whether there is an error among the problems. -/
def hasErrors (ps : Problems) : Bool :=
  ps.any Problem.isError

/-- Whether there is a warning among the problems. -/
def hasWarnings (ps : Problems) : Bool :=
  ps.any fun p => p.severity = .warning

/-- The errors among the problems. -/
def errors (ps : Problems) : Problems :=
  ps.filter Problem.isError

/-- The problems with one more, of which the newest `capacity` stay. -/
def pushBounded (ps : Problems) (p : Problem) (capacity : Nat) : Problems :=
  let all := ps ++ [p]
  all.drop (all.length - capacity)

/-- The problems with more of them, one after the other, of which the newest `capacity` stay. -/
def pushAllBounded (ps more : Problems) (capacity : Nat) : Problems :=
  more.foldl (fun kept p => pushBounded kept p capacity) ps

/-- The texts of the problems. -/
def texts (ps : Problems) : List String :=
  ps.map Problem.text

end Problems

end ContentEngine
