import ContentEngine.Bus
import ContentEngine.Rule.Matcher

/-!
# Processing services

While a processing service runs, an observer of it is on the bus and submits the jobs that events
call for. The service owns that registration. Starting and shutting down each take several steps,
and the steps of different calls may alternate; the registration is touched by one call at a time.
-/

namespace ContentEngine

/-- The number of a dispatcher. -/
abbrev DispatcherId := Nat

/-- Turns change events into jobs while it runs. -/
structure Service where
  engine : String
  lifecycle : Lifecycle
  bus : BusId
  dispatcher : DispatcherId
  rules : RuleMatcher Processor
  registration : Option ObserverId

namespace Service

/-- A service that is not started. -/
def new (engine : String) (bus : BusId) (dispatcher : DispatcherId)
    (rules : RuleMatcher Processor) : Service :=
  ⟨engine, .new "processing service" engine, bus, dispatcher, rules, none⟩

instance : Inhabited Service := ⟨new "" 0 0 []⟩

/-- The service with one more rule. -/
def addRule (s : Service) (rule : BoundRule Processor) : Service :=
  { s with rules := s.rules ++ [rule] }

/-- The first step of a start. `true` says that the caller goes on with it. -/
def beginStart (s : Service) : Except Fault Bool × Service :=
  let (lifecycle, result) := s.lifecycle.beginStart
  (result, { s with lifecycle := lifecycle })

/-- The second step of a start: the observer of the service, which has the given number, goes onto
the bus. -/
def attach (s : Service) (self : ServiceId) (bus : Bus) : Service × Bus :=
  let (id, bus) := bus.register (.processing self)
  ({ s with registration := some id }, bus)

/-- The last step of a start. -/
def finishStart (s : Service) : Service :=
  { s with lifecycle := s.lifecycle.markRunning }

/-- The first step of a shutdown. -/
def beginShutdown (s : Service) : ShutdownStep × Service :=
  let (lifecycle, step) := s.lifecycle.beginShutdown
  (step, { s with lifecycle := lifecycle })

/-- The last step of a shutdown: the observer leaves the bus, if it is there. -/
def finishShutdown (s : Service) (bus : Bus) : Service × Bus × List LogLine :=
  let lifecycle := s.lifecycle.markTerminated
  match s.registration with
  | some id =>
    ({ s with registration := none, lifecycle := lifecycle }, (bus.unregister id).2,
      [.stopping "processing service" s.engine])
  | none => ({ s with lifecycle := lifecycle }, bus, [])

end Service

end ContentEngine
