import ContentEngine.Fault
import ContentEngine.Text.Record

/-!
# Lifecycles

Each component goes through five states, forward only: not started, starting, running, stopping,
terminated. Whoever begins a phase owns it and has to finish it; a component that never started is
terminated by its shutdown at once.
-/

namespace ContentEngine

/-- The state of a component. -/
inductive LifecycleState where
  | notStarted
  | starting
  | running
  | stopping
  | terminated
  deriving DecidableEq, Repr

namespace LifecycleState

/-- The label of a state. -/
def label : LifecycleState → String
  | notStarted => "NOT_STARTED"
  | starting => "STARTING"
  | running => "RUNNING"
  | stopping => "STOPPING"
  | terminated => "TERMINATED"

/-- The name of a state in record texts. -/
def name : LifecycleState → String
  | notStarted => "NotStarted"
  | starting => "Starting"
  | running => "Running"
  | stopping => "Stopping"
  | terminated => "Terminated"

/-- The state of a name. -/
def ofName? : String → Option LifecycleState
  | "NotStarted" => some notStarted
  | "Starting" => some starting
  | "Running" => some running
  | "Stopping" => some stopping
  | "Terminated" => some terminated
  | _ => none

/-- The place of a state in the order of the phases. -/
def rank : LifecycleState → Nat
  | notStarted => 0
  | starting => 1
  | running => 2
  | stopping => 3
  | terminated => 4

/-- Whether a shutdown has begun or ended. -/
def isClosed : LifecycleState → Bool
  | stopping | terminated => true
  | notStarted | starting | running => false

end LifecycleState

/-- What a component is asked to do. -/
inductive Operation where
  | start
  | shutdown
  deriving DecidableEq, Repr

/-- What an operation does in a state. -/
inductive Transition where
  /-- Move to a state. -/
  | enter (next : LifecycleState)
  /-- The aim is reached, or on its way. -/
  | skip
  /-- Not allowed, for the given reason. -/
  | reject (reason : String)
  deriving DecidableEq, Repr

/-- The transition table. -/
def LifecycleState.transition : LifecycleState → Operation → Transition
  | notStarted, .start => .enter starting
  | starting, .start => .skip
  | running, .start => .skip
  | stopping, .start => .reject "Cannot start a component while it is stopping"
  | terminated, .start => .reject "Cannot restart a component that has terminated"
  | notStarted, .shutdown => .enter terminated
  | starting, .shutdown => .enter stopping
  | running, .shutdown => .enter stopping
  | stopping, .shutdown => .skip
  | terminated, .shutdown => .skip

/-- What a caller of a shutdown has to do. -/
inductive ShutdownStep where
  /-- The component is stopping; the caller owns the drain and has to end it. -/
  | drain
  /-- The component never started and is terminated. -/
  | terminated
  /-- Somebody else shuts the component down. -/
  | alreadyShuttingDown
  deriving DecidableEq, Repr

/-- The lifecycle of a component of an engine. -/
structure Lifecycle where
  component : String
  id : String
  state : LifecycleState
  deriving DecidableEq, Repr

namespace Lifecycle

/-- A component that is not started. -/
def new (component id : String) : Lifecycle :=
  ⟨component, id, .notStarted⟩

/-- Whether the component is running. -/
def isRunning (l : Lifecycle) : Bool :=
  l.state = .running

/-- Begins a start. `true` says that the caller owns it and has to finish it, `false` that somebody
else does or did; a component that is shut down cannot start. -/
def beginStart (l : Lifecycle) : Lifecycle × Except Fault Bool :=
  match l.state.transition .start with
  | .enter next => ({ l with state := next }, .ok true)
  | .skip => (l, .ok false)
  | .reject reason =>
    (l, .error (.notRunning
      (l.component ++ " '" ++ l.id ++ "' is " ++ l.state.label ++ ": " ++ reason)))

/-- Finishes a start, unless a shutdown overtook it. -/
def markRunning (l : Lifecycle) : Lifecycle :=
  if l.state = .starting then { l with state := .running } else l

/-- Begins a shutdown. -/
def beginShutdown (l : Lifecycle) : Lifecycle × ShutdownStep :=
  match l.state.transition .shutdown with
  | .enter .terminated => ({ l with state := .terminated }, .terminated)
  | .enter next => ({ l with state := next }, .drain)
  | .skip => (l, .alreadyShuttingDown)
  | .reject _ => (l, .alreadyShuttingDown)

/-- Ends a shutdown. -/
def markTerminated (l : Lifecycle) : Lifecycle :=
  { l with state := .terminated }

/-- The answer to waiting for the end of a shutdown for `timeout` milliseconds, if the component
terminates after `termination` milliseconds: yes at once if it is terminated, no at once if nobody
shuts it down, and otherwise whether it terminates in time. -/
def awaitTermination (l : Lifecycle) (timeout : Nat) (termination : Option Nat) : Bool :=
  match l.state with
  | .terminated => true
  | .stopping =>
    match termination with
    | some after => decide (after < timeout)
    | none => false
  | _ => false

/-- The record text of a lifecycle. -/
def recordText (l : Lifecycle) : String :=
  Text.record "Lifecycle" [
    ("component", Text.inQuotes l.component),
    ("id", Text.inQuotes l.id),
    ("state", l.state.name)]

end Lifecycle

/-! ## The guard of running components -/

/-- Access to connections and services needs a running federation and a running dispatcher. -/
structure StateGuard where
  federation : LifecycleState
  dispatcher : LifecycleState
  deriving DecidableEq, Repr

namespace StateGuard

/-- Whether both components are running. -/
def isRunning (g : StateGuard) : Bool :=
  g.federation = .running && g.dispatcher = .running

/-- Passes if both components are running. -/
def requireRunning (g : StateGuard) : Except Fault Unit :=
  if g.isRunning then .ok ()
  else .error (.notRunning
    ("Engine must be started before this operation (federation is " ++ g.federation.label ++
      ", dispatcher is " ++ g.dispatcher.label ++ ")"))

end StateGuard

end ContentEngine
