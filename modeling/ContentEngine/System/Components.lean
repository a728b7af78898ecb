import ContentEngine.System.Announce

/-!
# Starting and shutting down components

Federations, dispatchers and processing services are started and shut down one by one. A dispatcher
that was running drains in the background after its shutdown, and whoever wants to know can wait for
it.
-/

namespace ContentEngine

/-- Starts a federation. -/
def startFederation (id : FederationId) : InSystem (Except Fault Unit) := do
  match (← fromSystem (System.federation · id)).start with
  | (.error fault, _) => pure (.error fault)
  | (.ok f, lines) =>
    modify fun s => (s.setFederation id f).addLog lines
    pure (.ok ())

/-- Starts a dispatcher. -/
def startDispatcher (id : DispatcherId) : InSystem (Except Fault Unit) := do
  match (← fromSystem (System.dispatcher · id)).start with
  | (.error fault, _) => pure (.error fault)
  | (.ok d, lines) =>
    modify fun s => (s.setDispatcher id d).addLog lines
    pure (.ok ())

/-- Shuts a dispatcher down; if it was running its jobs go on in the background. -/
def shutdownDispatcher (id : DispatcherId) : InSystem Unit := do
  let (step, lines) ← withDispatcher id fun d =>
    let (step, d, lines) := d.beginShutdown
    ((step, lines), d)
  writeLog lines
  if step = .drain then modify (·.enqueue [.drain id])

/-- Starts a processing service. -/
def startService (id : ServiceId) : InSystem (Except Fault Unit) :=
  modifyGet fun s =>
    match (s.service id).beginStart with
    | (.error fault, _) => (.error fault, s)
    | (.ok false, v) => (.ok (), s.setService id v)
    | (.ok true, v) =>
      let (v, bus) := v.attach id (s.bus v.bus)
      (.ok (), ((s.setBus v.bus bus).setService id v.finishStart).addLog
        [.starting "processing service" v.engine])

/-- Shuts a processing service down. -/
def shutdownService (id : ServiceId) : InSystem Unit :=
  modify fun s =>
    match (s.service id).beginShutdown with
    | (.alreadyShuttingDown, v) => s.setService id v
    | (_, v) =>
      let (v, bus, lines) := v.finishShutdown (s.bus v.bus)
      ((s.setBus v.bus bus).setService id v).addLog lines

/-- Waits for the end of a shutdown: yes at once if it has ended, no at once if there is none. -/
def awaitTermination (millis : Nat) (state : System → LifecycleState) : InSystem Bool := do
  match state (← get) with
  | .terminated => pure true
  | .stopping => waitFor millis fun s => state s = .terminated
  | _ => pure false

/-- Waits for a dispatcher to terminate. -/
def awaitDispatcher (id : DispatcherId) (millis : Nat) : InSystem Bool :=
  awaitTermination millis fun s => (s.dispatcher id).lifecycle.state

/-! ## Making components -/

/-- Adds a bus. -/
def addBus (b : Bus) : InSystem BusId :=
  modifyGet fun s => (s.buses.size, { s with buses := s.buses.push b })

/-- Adds a federation. -/
def addFederation (f : Federation) : InSystem FederationId :=
  modifyGet fun s => (s.federations.size, { s with federations := s.federations.push f })

/-- Adds a dispatcher. -/
def addDispatcher (d : Dispatcher) : InSystem DispatcherId :=
  modifyGet fun s => (s.dispatchers.size, { s with dispatchers := s.dispatchers.push d })

/-- Adds a processing service. -/
def addService (v : Service) : InSystem ServiceId :=
  modifyGet fun s => (s.services.size, { s with services := s.services.push v })

/-- Adds a rule to a service. -/
def addRule (id : ServiceId) (rule : BoundRule Processor) : InSystem Unit :=
  modify fun s => s.setService id ((s.service id).addRule rule)

/-- Registers an observer. -/
def observe (bus : BusId) (o : Observer) : InSystem ObserverId :=
  withBus bus fun b => b.register o

/-- Adds permits to a gate: the first jobs in line get them, and what is left stays. -/
def openGate (name : String) (permits : Nat) : InSystem Unit :=
  modify fun s =>
    let g := s.gate name
    let woken := g.line.take permits
    (s.setGate name ⟨g.permits + (permits - woken.length), g.line.drop permits⟩).enqueue
      (woken.map fun entry => .job entry.1 entry.2)

end ContentEngine
