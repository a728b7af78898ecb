import ContentEngine.NodePath

/-!
# Faults of the engine

Connectors, processors and detectors fail with a *failure*: a chain of texts, outermost first. The
operations of the engine fail with a *fault*, which says what went wrong at the boundary and keeps
the failure that caused it.
-/

namespace ContentEngine

/-- A failure: the outermost text and the causes behind it. -/
structure Failure where
  outermost : String
  causes : List String
  deriving DecidableEq, Repr, Inhabited

namespace Failure

/-- The failure with one text only. -/
def of (text : String) : Failure := ⟨text, []⟩

/-- The failure of a chain of texts; the word `failure` if there are none. -/
def ofChain : List String → Failure
  | [] => of "failure"
  | text :: causes => ⟨text, causes⟩

/-- All texts, outermost first. -/
def chain (f : Failure) : List String :=
  f.outermost :: f.causes

/-- All texts in one line. -/
def text (f : Failure) : String :=
  Text.joined ": " f.chain

end Failure

/-- Why an operation of the engine failed. -/
inductive Fault where
  | unknownSource (name : String)
  | connection (source : String) (cause : Failure)
  | notRunning (reason : String)
  | jobRejected (rule : String) (path : String)
  | invalidConfiguration (reason : String)
  | internal (cause : Failure)
  deriving DecidableEq, Repr

namespace Fault

/-- The text of a fault, without what lies behind its outermost cause. -/
def message : Fault → String
  | unknownSource name => "Unknown source '" ++ name ++ "'"
  | connection source cause =>
    "Connection to source '" ++ source ++ "' failed: " ++ cause.outermost
  | notRunning reason => "Engine not running: " ++ reason
  | jobRejected rule path =>
    "Job for rule '" ++ rule ++ "' on '" ++ path ++
      "' rejected: dispatcher is not accepting submissions"
  | invalidConfiguration reason => "Invalid configuration: " ++ reason
  | internal cause => cause.outermost

/-- What lies behind the text of a fault. -/
def causes : Fault → List String
  | connection _ cause => cause.chain
  | internal cause => cause.causes
  | unknownSource _ | notRunning _ | jobRejected _ _ | invalidConfiguration _ => []

/-- The fault as a failure. -/
def toFailure (f : Fault) : Failure :=
  ⟨f.message, f.causes⟩

/-- Whether the fault says that there is no such source. -/
def isUnknownSource : Fault → Bool
  | unknownSource _ => true
  | _ => false

/-- Whether the fault says that a component is not running. -/
def isNotRunning : Fault → Bool
  | notRunning _ => true
  | _ => false

end Fault

/-- What a computation that was cut short carried with it. -/
inductive PanicPayload where
  | text (message : String)
  | opaqueValue
  deriving DecidableEq, Repr

namespace PanicPayload

/-- The text of a payload. -/
def message : PanicPayload → String
  | text message => message
  | opaqueValue => "panic with a non-string payload"

end PanicPayload

end ContentEngine
