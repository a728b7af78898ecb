import ContentEngine.MediaType
import ContentEngine.Dispatch.Processor
import ContentEngine.Plugin.Registry
import ContentEngine.Source.Pool

/-!
# Plug-ins for rehearsals

An engine can be tried out with plug-ins that behave as they are told: connectors that are slow or
fail, processors that fail, panic, complain or wait, and detectors of each sort. How they behave is
told by their type names and by properties.
-/

namespace ContentEngine.Rehearsal

/-- The texts under the property `errors`: one text, or a list of them. -/
def errorsOf (properties : Properties) : List String :=
  match Table.get? properties "errors" with
  | some (.text s) => [s]
  | some (.list items) => items.filterMap Value.asText?
  | _ => []

/-- The text under a property. -/
def textOf? (properties : Properties) (name : String) : Option String :=
  (Table.get? properties name).bind Value.asText?

/-! ## Connectors -/

/-- The milliseconds that slow connectors take. -/
def slowDelay : Nat := 50

/-- The manner of a type name, with the texts of its failure. -/
def manner (type : String) (errors : List String) : Manner :=
  let failure := Failure.ofChain errors
  match type with
  | "fail-init" => ⟨type, 0, some failure, none, .always⟩
  | "fail-connect" => ⟨type, 0, none, some failure, .always⟩
  | "veto" => ⟨type, 0, none, none, .never⟩
  | "once" => ⟨type, 0, none, none, .untilPinged⟩
  | "slow" => ⟨type, slowDelay, none, none, .always⟩
  | "slow-fail-connect" => ⟨type, slowDelay, none, some failure, .always⟩
  | _ => .plain

/-- The connector over the store that a descriptor names: that of the property `store`, or else that
of the source's own name. -/
def sharedPlan (type : String) (d : SourceDescriptor) : ConnectorPlan :=
  ⟨.shared ((d.text? "store").getD d.name), manner type (errorsOf d.properties)⟩

/-- The connector types for rehearsals that share stores by name. -/
def sharingTypes : List String :=
  ["shared", "fail-init", "fail-connect", "veto", "once"]

/-- The registry with the connector types for rehearsals. -/
def registerConnectors (registry : Registry SourceDescriptor ConnectorPlan) :
    Registry SourceDescriptor ConnectorPlan :=
  (sharingTypes.foldl (fun registry type =>
      registry.register type fun d => .ok (sharedPlan type d)) registry).register
    "fail-factory" fun d => .error (.ofChain (errorsOf d.properties))

/-! ## Processors -/

/-- What a processor notes when it is invoked. -/
def invocationNote (a : Assignment) : Value :=
  Value.ofFields [
    ("rule", .text a.rule.name),
    ("input", a.input.toValue),
    ("output", a.output.toValue),
    ("properties", .object a.rule.properties)]

/-- What a processor notes about its input when it is done. -/
def finishedNote (a : Assignment) (node : Option Properties) : Value :=
  Value.ofFields [
    ("finished", .text a.rule.name),
    ("input", a.input.toValue),
    ("found", .bool node.isSome)]

/-- What a processor notes about the node that it read. -/
def readNote (a : Assignment) (node : Option Properties) : Value :=
  Value.ofFields [
    ("read", a.input.toValue),
    ("node", match node with
      | some properties => .object properties
      | none => .null)]

/-- The failure of a processor that cannot process its input. -/
def failureOf (a : Assignment) : Failure :=
  match errorsOf a.rule.properties with
  | [] => .of ("cannot process " ++ a.input.text)
  | errors => .ofChain errors

/-- The problems of a processor that complains. -/
def complaints (a : Assignment) : Problems := [
  .plain .warning "\x7b\x7d is large" [a.input.text],
  (Problem.errorAbout "content" "\x7b\x7d is not a valid document" [a.input.text]).causedBy
    "bad magic"]

/-- The gate at which a processor waits. -/
def gateOf (a : Assignment) : String :=
  (textOf? a.rule.properties "gate").getD "gate"

/-- The milliseconds that a processor sleeps. -/
def sleepOf (a : Assignment) : Nat :=
  ((Table.get? a.rule.properties "ms").bind Value.asNat?).getD 10

/-- The last actions of a processor that holds a connection to its input's source. -/
def lookAtInput (a : Assignment) : List Action :=
  [.ping, .read a.input.path (finishedNote a)]

/-- The script of a processor type, besides the note at its start. -/
def scriptOf (type : String) (a : Assignment) : Script :=
  match type with
  | "failing" => ⟨[], .failed (failureOf a)⟩
  | "panicking" => ⟨[], .panicked (.text ("processor blew up on " ++ a.input.text))⟩
  | "panicking-static" => ⟨[], .panicked (.text "static blow up")⟩
  | "panicking-value" => ⟨[], .panicked .opaqueValue⟩
  | "complaining" => ⟨[], .reported (complaints a)⟩
  | "warning" => ⟨[], .reported [.plain .warning "\x7b\x7d is odd" [a.input.text]]⟩
  | "gated" => ⟨[.borrow a.input.source, .pass (gateOf a)] ++ lookAtInput a, .reported []⟩
  | "gated-late" => ⟨[.pass (gateOf a), .borrow a.input.source] ++ lookAtInput a, .reported []⟩
  | "slow" => ⟨[.borrow a.input.source, .sleep (sleepOf a)] ++ lookAtInput a, .reported []⟩
  | "reader" =>
    ⟨[.expect a.input.source, .borrow a.input.source,
      .readOf a.input.source a.input.path (readNote a), .giveBack], .reported []⟩
  | _ => ⟨[], .reported []⟩

/-- The processor of a type. -/
def processor (type : String) : Processor := fun a =>
  let script := scriptOf type a
  { script with actions := .note (invocationNote a) :: script.actions }

/-- The processor types for rehearsals. -/
def processorTypes : List String := [
  "recorder", "failing", "panicking", "panicking-static", "panicking-value", "complaining",
  "warning", "gated", "gated-late", "slow", "reader"]

/-- The failure of a factory that makes nothing. -/
def brokenFactory (rule : String) : Failure :=
  ⟨"broken factory", [rule]⟩

/-- The registry with the processor types for rehearsals. -/
def registerProcessors (registry : Registry ProcessorRule Processor) :
    Registry ProcessorRule Processor :=
  (processorTypes.foldl (fun registry type =>
      registry.register type fun _ => .ok (processor type)) registry).register
    "broken" fun rule => .error (brokenFactory rule.name)

/-! ## Detectors -/

/-- The detector of a type, told by properties. -/
def detector (type : String) (properties : Properties) : Detector :=
  let mime := (textOf? properties "mime").getD ""
  match type with
  | "fixed" => .fixed mime
  | "magic" =>
    .startingWith ((textOf? properties "prefix").getD "").toUTF8.toList mime
  | "named" => .named mime
  | "broken" => .failing (.ofChain (errorsOf properties))
  | "extension" => .byExtension
  | _ => .silent

/-- The registry with the detector types for rehearsals. -/
def registerDetectors (registry : Registry DetectorRule Detector) :
    Registry DetectorRule Detector :=
  (registry.register "test" fun rule =>
      .ok (detector ((textOf? rule.properties "type").getD "") rule.properties)).register
    "broken" fun rule => .error (brokenFactory rule.name)

end ContentEngine.Rehearsal
