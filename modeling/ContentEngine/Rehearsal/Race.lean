import ContentEngine.System.Components

/-!
# Races

Two operations on a federation run at once: the first starts, and some time into it the second one
runs. If the first has to wait, the second happens while it does.
-/

namespace ContentEngine.Rehearsal

/-- The operation of a race that runs some time into the first one. -/
inductive SecondOperation where
  | shutdown
  | remove
  /-- Registers a source that the store of a name serves. -/
  | replace (store : String)

/-- The milliseconds between the starts of the two operations. -/
def headStart : Nat := 10

/-- Runs the second operation. -/
def runSecond (id : FederationId) (name : String) : SecondOperation → InSystem Unit
  | .shutdown => shutdownFederation id
  | .remove => (fun _ => ()) <$> removeSource id name
  | .replace store => (fun _ => ()) <$> registerConnector id name ⟨.shared store, .plain⟩

/-- Lets the time pass until the second operation, runs it, and lets the rest of the given time
pass. -/
def passTime (id : FederationId) (name : String) (second : SecondOperation) (millis : Nat) :
    InSystem Unit := do
  elapse headStart
  runSecond id name second
  elapse (millis - headStart)

/-- Runs a race of borrowing. The connection is given back as soon as it is there. -/
def raceBorrow (id : FederationId) (name : String) (second : SecondOperation) :
    InSystem (Except Fault String) := do
  let receive (result : Except Fault Loan) : InSystem (Except Fault String) := do
    match result with
    | .ok loan =>
      let d ← fromSystem System.depot
      giveBack (some loan)
      pure (.ok (d.pool loan.pool).source)
    | .error fault => pure (.error fault)
  match ← requestConnection id name with
  | .done loan =>
    let answer ← receive (.ok loan)
    passTime id name second 0
    pure answer
  | .failed fault =>
    passTime id name second 0
    pure (.error fault)
  | .opening opening millis =>
    passTime id name second millis
    let next ← withFederation id fun f d =>
      let (next, d) := f.resumeBorrow d opening
      (next, f, d)
    receive (← awaitBorrowing id 1 next)

/-- Runs a race of registering a source. -/
def raceRegister (id : FederationId) (name : String) (plan : ConnectorPlan)
    (second : SecondOperation) : InSystem (Except Fault Unit) := do
  let connector ← withDepot fun d => d.build plan
  let f ← fromSystem (System.federation · id)
  match f.requireOpen with
  | .error fault =>
    passTime id name second 0
    pure (.error fault)
  | .ok () =>
    if connector.manner.delay = 0 then
      let answer ← withFederation id fun f d => f.install d name connector none
      passTime id name second 0
      pure answer
    else
      passTime id name second connector.manner.delay
      withFederation id fun f d => f.install d name connector none

end ContentEngine.Rehearsal
