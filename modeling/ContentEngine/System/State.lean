import ContentEngine.Configuration.Settings
import ContentEngine.Federation
import ContentEngine.MediaType
import ContentEngine.Service

/-!
# The state of engines and their background work

A system holds everything that engines share or own: the depot, buses, federations, dispatchers,
services, and the engines themselves, each under its number. Work that goes on in the background is
kept as data: errands that can go on at once, in the order in which they will, and errands that
wait for a moment in time. Time is counted in milliseconds and passes only where somebody waits.
-/

namespace ContentEngine

/-- The number of an engine. -/
abbrev EngineId := Nat

/-- Access to the sources of a federation and to the configuration tree. -/
structure Repository where
  federation : FederationId
  root : NodePath
  /-- The workspace of the configuration source that holds the tree. -/
  workspace : Option String

/-- How far an engine has come with closing its sources. -/
inductive Closing where
  /-- Nothing asked for it, or it is done. -/
  | idle
  /-- Asked for, but not begun. -/
  | due
  /-- Waits for the dispatcher until a moment. -/
  | waiting (deadline : Nat)
  deriving DecidableEq, Repr

/-- An engine and its parts. -/
structure Engine where
  settings : Settings
  lifecycle : Lifecycle
  bus : BusId
  federation : FederationId
  dispatcher : DispatcherId
  service : ServiceId
  repository : Repository
  detectors : DetectorChain
  /-- The problems found while the engine was built. -/
  problems : Problems
  closing : Closing
  /-- The observer that follows the configuration of the sources. -/
  configurationObserver : ObserverId

instance : Inhabited Engine :=
  ⟨⟨.default "", .new "engine" "", 0, 0, 0, 0, ⟨0, .root, none⟩, ⟨[]⟩, [], .idle, 0⟩⟩

/-- Work that goes on in the background. -/
inductive Errand where
  | job (dispatcher : DispatcherId) (index : JobIndex)
  /-- Terminates a dispatcher once its jobs have ended. -/
  | drain (dispatcher : DispatcherId)
  /-- Closes the sources of an engine once its dispatcher has terminated, or the time is up. -/
  | close (engine : EngineId)
  deriving DecidableEq, Repr

/-- An errand that waits for a moment. -/
structure Timer where
  deadline : Nat
  errand : Errand
  deriving DecidableEq, Repr

/-- Lets jobs pass, each of which uses up a permit. -/
structure Gate where
  permits : Nat
  /-- The jobs that wait for a permit, the first to get one in front. -/
  line : List (DispatcherId × JobIndex)

/-- An event that a scripted observer was told of. -/
structure JournalEntry where
  observer : String
  event : ChangeEvent

/-- Everything that engines share or own. -/
structure System where
  clock : Nat
  depot : Depot
  buses : Array Bus
  federations : Array Federation
  dispatchers : Array Dispatcher
  services : Array Service
  engines : Array Engine
  gates : Table String Gate
  /-- The errands that can go on, in the order in which they will. -/
  ready : List Errand
  /-- The errands that wait for a moment, in the order in which they began to. -/
  timers : List Timer
  log : Array LogLine
  journal : Array JournalEntry
  /-- What processors noted. -/
  notes : Array Value
  nextJob : JobId

/-- Something that happens in a system. -/
abbrev InSystem := StateM System

namespace System

/-- The system without content at the start of its time. -/
def empty : System where
  clock := 0
  depot := .empty
  buses := #[]
  federations := #[]
  dispatchers := #[]
  services := #[]
  engines := #[]
  gates := []
  ready := []
  timers := []
  log := #[]
  journal := #[]
  notes := #[]
  nextJob := 0

/-- The moment that the clock shows. -/
def now (s : System) : Timestamp :=
  .ofMillis s.clock

/-- The bus of a number. -/
def bus (s : System) (id : BusId) : Bus :=
  s.buses.getD id default

/-- The federation of a number. -/
def federation (s : System) (id : FederationId) : Federation :=
  s.federations.getD id default

/-- The dispatcher of a number. -/
def dispatcher (s : System) (id : DispatcherId) : Dispatcher :=
  s.dispatchers.getD id default

/-- The service of a number. -/
def service (s : System) (id : ServiceId) : Service :=
  s.services.getD id default

/-- The engine of a number. -/
def engine (s : System) (id : EngineId) : Engine :=
  s.engines.getD id default

/-- The system with a bus changed. -/
def setBus (s : System) (id : BusId) (b : Bus) : System :=
  { s with buses := s.buses.setIfInBounds id b }

/-- The system with a federation changed. -/
def setFederation (s : System) (id : FederationId) (f : Federation) : System :=
  { s with federations := s.federations.setIfInBounds id f }

/-- The system with a dispatcher changed. -/
def setDispatcher (s : System) (id : DispatcherId) (d : Dispatcher) : System :=
  { s with dispatchers := s.dispatchers.setIfInBounds id d }

/-- The system with a service changed. -/
def setService (s : System) (id : ServiceId) (v : Service) : System :=
  { s with services := s.services.setIfInBounds id v }

/-- The system with an engine changed. -/
def setEngine (s : System) (id : EngineId) (e : Engine) : System :=
  { s with engines := s.engines.setIfInBounds id e }

/-- The system with another depot. -/
def setDepot (s : System) (d : Depot) : System :=
  { s with depot := d }

/-- The system with more log lines. -/
def addLog (s : System) (lines : List LogLine) : System :=
  { s with log := s.log ++ lines.toArray }

/-- The system where more errands can go on, after those that can already. -/
def enqueue (s : System) (errands : List Errand) : System :=
  { s with ready := s.ready ++ errands }

/-- The system where an errand waits for some time to pass. -/
def after (s : System) (millis : Nat) (errand : Errand) : System :=
  { s with timers := s.timers ++ [⟨s.clock + millis, errand⟩] }

/-- The gate of a name; gates are closed at first. -/
def gate (s : System) (name : String) : Gate :=
  (Table.get? s.gates name).getD ⟨0, []⟩

/-- The system with a gate changed. -/
def setGate (s : System) (name : String) (g : Gate) : System :=
  { s with gates := Table.insert name g s.gates }

end System

/-! ## Parts of a system -/

/-- A part of the system. -/
def fromSystem {α : Type} (f : System → α) : InSystem α :=
  f <$> get

/-- Changes a federation together with the depot. -/
def withFederation {α : Type} (id : FederationId)
    (f : Federation → Depot → α × Federation × Depot) : InSystem α :=
  modifyGet fun s =>
    let (answer, federation, depot) := f (s.federation id) s.depot
    (answer, (s.setFederation id federation).setDepot depot)

/-- Changes the depot. -/
def withDepot {α : Type} (f : Depot → α × Depot) : InSystem α :=
  modifyGet fun s =>
    let (answer, depot) := f s.depot
    (answer, s.setDepot depot)

/-- Changes a bus. -/
def withBus {α : Type} (id : BusId) (f : Bus → α × Bus) : InSystem α :=
  modifyGet fun s =>
    let (answer, bus) := f (s.bus id)
    (answer, s.setBus id bus)

/-- Changes a dispatcher. -/
def withDispatcher {α : Type} (id : DispatcherId) (f : Dispatcher → α × Dispatcher) : InSystem α :=
  modifyGet fun s =>
    let (answer, dispatcher) := f (s.dispatcher id)
    (answer, s.setDispatcher id dispatcher)

/-- Writes log lines. -/
def writeLog (lines : List LogLine) : InSystem Unit :=
  modify (·.addLog lines)

end ContentEngine
