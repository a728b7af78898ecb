import ContentEngine.Change
import ContentEngine.Dispatch.Dispatcher
import ContentEngine.Store.Basic

/-!
# Change buses

A bus delivers each change event to all observers that are registered when it is published, in the
order of their registration. The failure of an observer is recorded with the bus and does not keep
the event from the observers after it.
-/

namespace ContentEngine

/-- The number under which an observer is registered. -/
abbrev ObserverId := Nat

/-- The number of a processing service. -/
abbrev ServiceId := Nat

/-- What a scripted observer does with an event. -/
inductive Reaction where
  | accept
  /-- Fails, with the given texts or else because it refuses the event. -/
  | refuse (errors : List String)
  | panic (payload : PanicPayload)
  /-- Registers an observer that accepts all events. -/
  | register (name : String)
  | unregister (id : ObserverId)
  /-- Puts a node with the number of the event into a store, if the event is of a source. -/
  | echo (source store path : String)
  deriving DecidableEq, Repr

/-- Is told of change events. -/
inductive Observer where
  | scripted (name : String) (reaction : Reaction)
  /-- Reloads the sources of a federation when their configuration changes. -/
  | configuration (federation : FederationId) (root : NodePath) (workspace : Option String)
  /-- Submits the jobs that events call for. -/
  | processing (service : ServiceId)

namespace Observer

/-- The name of an observer in problems. -/
def name : Observer → String
  | scripted name _ => name
  | configuration _ _ _ => "source-configuration"
  | processing _ => "processing"

end Observer

/-- How many observers an event was delivered to, and how many of them failed. -/
structure DeliveryReport where
  delivered : Nat
  failed : Nat
  deriving DecidableEq, Repr

/-- The observers of one engine. -/
structure Bus where
  engine : String
  /-- The observers in the order of their registration. -/
  observers : List (ObserverId × Observer)
  nextId : ObserverId
  problems : Problems
  problemCapacity : Nat

namespace Bus

/-- A bus without observers. -/
def new (engine : String) (problemCapacity : Nat) : Bus :=
  ⟨engine, [], 1, [], max problemCapacity 1⟩

instance : Inhabited Bus := ⟨new "" 1⟩

/-- The bus with one more observer, and the number of that observer. -/
def register (b : Bus) (o : Observer) : ObserverId × Bus :=
  (b.nextId, { b with observers := b.observers ++ [(b.nextId, o)], nextId := b.nextId + 1 })

/-- The bus without an observer, and whether it was registered. -/
def unregister (b : Bus) (id : ObserverId) : Bool × Bus :=
  (b.observers.any fun entry => entry.1 == id,
    { b with observers := b.observers.filter fun entry => entry.1 != id })

/-- The bus that has recorded the failure of an observer, and what is logged about it. -/
def recordFailure (b : Bus) (observer : String) (event : ChangeEvent) (cause : String) :
    LogLine × Bus :=
  let p := (Problem.errorAbout observer
    "Observer '\x7b\x7d' failed to handle change event \x7b\x7d"
    [observer, event.text]).causedBy cause
  (.warningIn "change bus" b.engine
      ("observer '" ++ observer ++ "' failed on " ++ event.text ++ ": " ++ cause),
    { b with problems := Problems.pushBounded b.problems p b.problemCapacity })

/-- The record text of a bus. -/
def recordText (b : Bus) : String :=
  Text.record "ChangeBus" [("engine_id", Text.inQuotes b.engine)]

end Bus

end ContentEngine
