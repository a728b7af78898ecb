import ContentEngine.Fault
import ContentEngine.Text.Blank
import ContentEngine.Value.Reader

/-!
# Engine settings

The settings of an engine are read from a document of named fields, each of which may be left out.
Some fields have two spellings, and a field that is given twice is refused. Settings have to be
validated before an engine is built from them.
-/

namespace ContentEngine

/-- How many jobs run at once, and how long a shutdown waits for them. -/
structure DispatcherSettings where
  poolSize : Nat
  drainTimeoutMillis : Nat
  deriving DecidableEq, Repr

/-- How many idle connections are kept for each source. -/
structure FederationSettings where
  maxIdlePerSource : Nat
  deriving DecidableEq, Repr

/-- The settings of an engine. -/
structure Settings where
  id : String
  /-- The name of the source that holds the configuration tree. -/
  configurationSource : String
  /-- The root of the configuration tree, as it was written. -/
  configurationPath : String
  /-- The workspace of the configuration source that holds the tree. -/
  workspace : Option String
  /-- How many problems each component keeps. -/
  problemCapacity : Nat
  dispatcher : DispatcherSettings
  federation : FederationSettings
  deriving DecidableEq, Repr

namespace Settings

/-- The usual name of the configuration source. -/
def defaultConfigurationSource : String := "cairn:configuration"

/-- The settings of an engine with the given identifier, all else left out. -/
def default (id : String) : Settings where
  id := id
  configurationSource := defaultConfigurationSource
  configurationPath := "/"
  workspace := none
  problemCapacity := 1000
  dispatcher := ⟨10, 30000⟩
  federation := ⟨8⟩

/-- Whether settings can be used, or the first reason why not. -/
def validate (s : Settings) : Except Fault Unit :=
  if Text.isBlankText s.id then .error (.invalidConfiguration "Engine id cannot be empty")
  else if Text.isBlankText s.configurationSource then
    .error (.invalidConfiguration "Configuration source name cannot be empty")
  else
    match NodePath.parse s.configurationPath with
    | .error e => .error (.invalidConfiguration ("Invalid configuration path: " ++ e.message))
    | .ok _ =>
      if s.workspace.any Text.isBlankText then
        .error (.invalidConfiguration "Workspace name cannot be empty")
      else if s.problemCapacity = 0 then
        .error (.invalidConfiguration "Problem capacity must be at least 1")
      else if s.dispatcher.poolSize = 0 then
        .error (.invalidConfiguration "Dispatcher pool size must be at least 1")
      else .ok ()

/-- The root of the configuration tree. -/
def configurationRoot (s : Settings) : Except Fault NodePath :=
  match NodePath.parse s.configurationPath with
  | .ok path => .ok path
  | .error e => .error (.invalidConfiguration ("Invalid configuration path: " ++ e.message))

/-- The settings as a value. -/
def toValue (s : Settings) : Value :=
  Value.ofFields ([
    ("id", .text s.id),
    ("configuration_source", .text s.configurationSource),
    ("configuration_path", .text s.configurationPath),
    ("problem_capacity", Value.ofNat s.problemCapacity),
    ("dispatcher", Value.ofFields [
      ("pool_size", Value.ofNat s.dispatcher.poolSize),
      ("drain_timeout_ms", Value.ofNat s.dispatcher.drainTimeoutMillis)]),
    ("federation", Value.ofFields [
      ("max_idle_per_source", Value.ofNat s.federation.maxIdlePerSource)])] ++
    match s.workspace with
    | some workspace => [("workspace", Value.text workspace)]
    | none => [])

/-! ## Reading documents -/

/-- How the parts of a document are read: what counts as a text, as a text or nothing, as an
unsigned integer of 64 bits, and as named fields in the order of the names given. -/
structure DocumentForm (δ : Type) where
  text? : δ → Option String
  textOrNull? : δ → Option (Option String)
  natural? : δ → Option Nat
  fields? : List String → δ → Option (List (String × δ))

/-- A field with its two spellings. -/
structure FieldName where
  name : String
  other : String

variable {δ α : Type}

/-- The field of a list of named fields: `default` if it is not given, refused if it is given
twice or not as `decode` expects. -/
def field? (fields : List (String × δ)) (key : FieldName) (default : α)
    (decode : δ → Option α) : Option α :=
  match fields.filter fun f => f.1 == key.name || f.1 == key.other with
  | [] => some default
  | [f] => decode f.2
  | _ => none

/-- A field with one spelling. -/
def FieldName.only (name : String) : FieldName := ⟨name, name⟩

/-- The dispatcher's part of a document. -/
def dispatcherOf? (form : DocumentForm δ) (doc : δ) : Option DispatcherSettings := do
  let fields ← form.fields? ["pool_size", "drain_timeout_ms"] doc
  let poolSize ← field? fields ⟨"pool_size", "poolSize"⟩ 10 form.natural?
  let drain ← field? fields ⟨"drain_timeout_ms", "drainTimeoutMs"⟩ 30000 form.natural?
  some ⟨poolSize, drain⟩

/-- The federation's part of a document. -/
def federationOf? (form : DocumentForm δ) (doc : δ) : Option FederationSettings := do
  let fields ← form.fields? ["max_idle_per_source"] doc
  let maxIdle ← field? fields ⟨"max_idle_per_source", "maxIdlePerSource"⟩ 8 form.natural?
  some ⟨maxIdle⟩

/-- The settings of a document; an engine without identifier gets `freshId`. -/
def ofDocument? (form : DocumentForm δ) (freshId : String) (doc : δ) : Option Settings := do
  let usual := default freshId
  let fields ← form.fields? ["id", "configuration_source", "configuration_path", "workspace",
    "problem_capacity", "dispatcher", "federation"] doc
  let id ← field? fields (.only "id") usual.id form.text?
  let source ← field? fields ⟨"configuration_source", "configurationSource"⟩
    usual.configurationSource form.text?
  let path ← field? fields ⟨"configuration_path", "configurationPath"⟩
    usual.configurationPath form.text?
  let workspace ← field? fields (.only "workspace") none form.textOrNull?
  let capacity ← field? fields ⟨"problem_capacity", "problemCapacity"⟩
    usual.problemCapacity form.natural?
  let dispatcher ← field? fields (.only "dispatcher") usual.dispatcher (dispatcherOf? form)
  let federation ← field? fields (.only "federation") usual.federation (federationOf? form)
  some ⟨id, source, path, workspace, capacity, dispatcher, federation⟩

/-- Documents in JSON. A list stands for the fields in their order. -/
def jsonForm : DocumentForm Value where
  text? := Value.asText?
  textOrNull?
    | .null => some none
    | .text s => some (some s)
    | _ => none
  natural? := Value.asNat?
  fields? names
    | .object fields => some fields
    | .list items => if items.length ≤ names.length then some (names.zip items) else none
    | _ => none

/-- Settings that were read, if they are valid. -/
def validated (s : Settings) : Except Fault Settings :=
  match s.validate with
  | .ok () => .ok s
  | .error fault => .error fault

/-- The settings of a JSON text. -/
def ofJson (freshId text : String) : Except Fault Settings :=
  match (Value.Reader.document? text).bind (ofDocument? jsonForm freshId) with
  | some s => s.validated
  | none => .error (.invalidConfiguration "Failed to parse JSON")

end Settings

end ContentEngine
