import ContentEngine.Rehearsal.Basic

/-!
# Reports of rehearsals

Whoever drives a rehearsal wants to see what became of it. A report shows a part of a system as a
value: its state, what it holds and its record text.
-/

namespace ContentEngine.Rehearsal.Report

/-- A list of texts as a value. -/
def ofTexts (texts : List String) : Value :=
  .list (texts.map .text)

/-- Something that may be missing; `null` if it is. -/
def orNull {α : Type} (report : α → Value) : Option α → Value
  | some a => report a
  | none => .null

/-- The label of a state. -/
def ofState (state : LifecycleState) : Value :=
  .text state.label

/-- The texts of paths. -/
def ofPaths (paths : List NodePath) : Value :=
  ofTexts (paths.map NodePath.text)

/-- The texts of problems. -/
def ofProblems (ps : Problems) : Value :=
  ofTexts ps.texts

/-- The texts of log lines. -/
def ofLines (lines : List LogLine) : Value :=
  ofTexts (lines.map LogLine.text)

/-- How a path compares with another one. -/
def comparison (p q : NodePath) : Value :=
  Value.ofFields [
    ("path", .text q.text),
    ("at_or_below", .bool (p.isAtOrBelow q)),
    ("descendant", .bool (p.isBelow q)),
    ("equal", .bool (p = q)),
    ("order", .text (if p = q then "Equal" else if p < q then "Less" else "Greater"))]

/-- A property of a node in all its forms. -/
def ofProperty (n : Node) (name : String) : Value :=
  let found := Table.get? n.properties name
  Value.ofFields [
    ("property", found.getD .null),
    ("present", .bool found.isSome),
    ("string", .ofText? (n.text? name)),
    ("strings", ofTexts (n.texts name))]

/-- Everything that a configuration tree holds, in fields. -/
def ofScan (scan : Configuration.Scan) : List (String × Value) := [
  ("sources", .list (scan.sources.map SourceDescriptor.toValue)),
  ("processors", .list (scan.processors.map ProcessorRule.toValue)),
  ("detectors", .list (scan.detectors.map DetectorRule.toValue)),
  ("problems", ofProblems scan.problems)]

/-- How many problems there are and of which severities, and the text of the last one. -/
def tally (ps : Problems) : Value :=
  Value.ofFields [
    ("len", .ofNat ps.length),
    ("empty", .bool ps.isEmpty),
    ("has_errors", .bool ps.hasErrors),
    ("has_warnings", .bool ps.hasWarnings),
    ("error_count", .ofNat ps.errors.length),
    ("last", .ofText? (ps.getLast?.map Problem.text))]

/-- The problems in all their forms. -/
def dump (ps : Problems) : Value :=
  Value.ofFields [
    ("texts", ofProblems ps),
    ("json", .list (ps.map Problem.toValue)),
    ("messages", ofTexts (ps.map Problem.message)),
    ("errors", ofProblems ps.errors)]

/-- The source that a store serves. -/
def ofBinding (b : Binding) (bus : BusId) : Value :=
  Value.ofFields [
    ("engine", .text b.engine),
    ("source", .text b.source),
    ("same_bus", .bool (b.bus == bus)),
    ("debug", .text b.recordText)]

/-- How many connections to a store are open, and how many were ever opened. -/
def ofConnections (d : Depot) (id : StoreId) : Value :=
  Value.ofFields [("open", .ofNat (d.openCount id)), ("created", .ofNat (d.openedCount id))]

/-- A connection. -/
def ofConnection (c : Connection) : Value :=
  Value.ofFields [("source", .text c.source), ("reusable", .bool c.isReusable)]

/-- A pool. -/
def ofPool (p : Pool) : Value :=
  Value.ofFields [
    ("source", .text p.source),
    ("idle", .ofNat p.idle.length),
    ("closed", .bool p.closed),
    ("type", .text p.connector.manner.typeName),
    ("descriptor", orNull SourceDescriptor.toValue p.descriptor)]

/-- To how many observers an event was delivered. -/
def ofDelivery (report : DeliveryReport) : Value :=
  Value.ofFields [("delivered", .ofNat report.delivered), ("failed", .ofNat report.failed)]

/-- What a scripted observer was told of. -/
def ofEntry (e : JournalEntry) : Value :=
  Value.ofFields [
    ("observer", .text e.observer),
    ("event", .text e.event.text),
    ("workspace", .ofText? e.event.workspace)]

/-- A federation. -/
def ofFederation (f : Federation) : Value :=
  Value.ofFields [
    ("id", .text f.engine),
    ("configuration_source", .text f.configurationSource),
    ("state", ofState f.state),
    ("debug", .text f.recordText),
    ("has_memory", .bool (f.connectors.has "memory"))]

/-- A graph. -/
def ofGraph (g : Graph) : Value :=
  Value.ofFields [
    ("source", .text g.source),
    ("workspace", .ofText? g.workspace),
    ("debug", .text g.recordText)]

/-- What a reconciliation changed, and what went wrong. -/
def ofReconciliation (r : Reconciliation) (ps : Problems) : Value :=
  Value.ofFields [
    ("added", ofTexts r.added),
    ("replaced", ofTexts r.replaced),
    ("removed", ofTexts (r.removed.mergeSort fun a b => !(b < a))),
    ("unchanged", ofTexts r.unchanged),
    ("empty", .bool r.isEmpty),
    ("problems", ofProblems ps)]

/-- A dispatcher. -/
def ofDispatcher (d : Dispatcher) : Value :=
  Value.ofFields [
    ("component", .text d.lifecycle.component),
    ("state", ofState d.lifecycle.state),
    ("pool_size", .ofNat d.poolSize),
    ("debug", .text d.recordText)]

/-- The rules of a matcher. -/
def ofRules (rules : RuleMatcher Processor) : Value :=
  .list (rules.map fun b => b.rule.toValue)

/-- A processing service. -/
def ofService (s : System) (v : Service) : Value :=
  Value.ofFields [
    ("component", .text v.lifecycle.component),
    ("state", ofState v.lifecycle.state),
    ("rules", ofRules v.rules),
    ("submitted", .ofNat (s.dispatcher v.dispatcher).submitted)]

/-- A work item and the text of its job. -/
def ofWork (work : WorkItem Processor) : Value :=
  let job : Job Processor := ⟨0, work⟩
  Value.ofFields [
    ("rule", .text job.ruleName),
    ("input", job.assignment.input.toValue),
    ("output", job.assignment.output.toValue),
    ("sequence", .ofNat job.assignment.eventSequence),
    ("text", .text job.text)]

/-- An engine that was just built. -/
def ofBuilt (s : System) (e : Engine) : Value :=
  Value.ofFields [
    ("id", .text e.settings.id),
    ("state", ofState e.lifecycle.state),
    ("problems", ofProblems e.problems),
    ("config", e.settings.toValue),
    ("observers", .ofNat (s.bus e.bus).observers.length)]

/-- The state of an engine. -/
def ofEngine (s : System) (e : Engine) : Value :=
  Value.ofFields [
    ("state", ofState e.lifecycle.state),
    ("running", .bool (s.isRunning e)),
    ("debug", .text (s.engineText e))]

end ContentEngine.Rehearsal.Report
