import ContentEngine.Store.Read
import ContentEngine.System.Sources

/-!
# Events and those who observe them

A change of a store that serves a source is announced on the bus of the source. Observers act on an
event one after the other, and a failure of one is recorded and does not concern the others. An
observer may itself change another store, whose event is then announced before the next observer is
told of the first one. An observer that does so always changes the same store, and no store can be
changed while its own event is being announced, so events are nested at most as deep as there are
observers. Observers that are registered meanwhile change no store.
-/

namespace ContentEngine

/-- What comes of telling an observer of an event. -/
inductive Notified where
  | done
  | failed (failure : Failure)
  | panicked (payload : PanicPayload)

namespace Notified

/-- The cause that is recorded if the observer failed. -/
def cause? : Notified → Option String
  | done => none
  | failed failure => some failure.text
  | panicked payload => some ("panicked: " ++ payload.message)

end Notified

/-! ## Submitting jobs -/

/-- Submits a work item as a new job. -/
def submitWork (id : DispatcherId) (work : WorkItem Processor) :
    InSystem (Job Processor × Except Fault JobIndex) := do
  let job : Job Processor := ⟨(← get).nextJob, work⟩
  modify fun s => { s with nextJob := s.nextJob + 1 }
  let result ← withDispatcher id fun d => d.submit job
  match result with
  | .ok index =>
    modify (·.enqueue [.job id index])
    pure (job, .ok index)
  | .error fault => pure (job, .error fault)

/-- Submits work items in their order and gathers the faults of those that are rejected. -/
def submitAll (id : DispatcherId) : List (WorkItem Processor) → InSystem (List Fault)
  | [] => pure []
  | work :: rest => do
    let (_, result) ← submitWork id work
    let faults ← submitAll id rest
    match result with
    | .ok _ => pure faults
    | .error fault => pure (fault :: faults)

/-- The failure to submit all jobs of an event. -/
def rejectionFailure (faults : List Fault) : Failure :=
  .of (toString faults.length ++ " job(s) rejected: " ++
    Text.joined "; " (faults.map Fault.message))

/-- Submits the jobs that an event calls for. Removed nodes have no content left to process. -/
def processEvent (id : ServiceId) (event : ChangeEvent) : InSystem Notified := do
  if event.kind = .removed then pure .done
  else
    let v ← fromSystem (System.service · id)
    writeLog (RuleMatcher.warningsFor v.rules event)
    let faults ← submitAll v.dispatcher (RuleMatcher.workFor v.rules event)
    if faults.isEmpty then pure .done else pure (.failed (rejectionFailure faults))

/-! ## Following the configuration -/

/-- Whether an event may concern the sources below a configuration root. -/
def concernsSources (f : Federation) (root : NodePath) (workspace : Option String)
    (event : ChangeEvent) : Bool :=
  let otherWorkspace :=
    match workspace, event.workspace with
    | some pinned, some changed => pinned != changed
    | _, _ => false
  event.source == f.configurationSource && !otherWorkspace &&
    event.touches (Configuration.Container.sources.path root)

/-- Reloads the sources of a federation if an event may concern them. -/
def followConfiguration (id : FederationId) (root : NodePath) (workspace : Option String)
    (event : ChangeEvent) : InSystem Notified := do
  let f ← fromSystem (System.federation · id)
  if concernsSources f root workspace event then
    let problems ← reloadSources id root workspace
    if Problems.hasErrors problems then
      pure (.failed (.of ("source reload finished with " ++
        toString (Problems.errors problems).length ++ " error(s)")))
    else pure .done
  else pure .done

/-! ## Announcing -/

/-- Tells somebody of an event. -/
abbrev Notify := BusId → Observer → ChangeEvent → InSystem Notified

/-- Delivers an event to observers in their order and records the failures. -/
def deliver (notify : Notify) (bus : BusId) (event : ChangeEvent) :
    List Observer → InSystem DeliveryReport
  | [] => pure ⟨0, 0⟩
  | observer :: rest => do
    let outcome ← notify bus observer event
    match outcome.cause? with
    | none =>
      let report ← deliver notify bus event rest
      pure { report with delivered := report.delivered + 1 }
    | some cause =>
      let line ← withBus bus fun b => b.recordFailure observer.name event cause
      writeLog [line]
      let report ← deliver notify bus event rest
      pure { report with failed := report.failed + 1 }

/-- Delivers an event to all observers that are registered by now. -/
def publishWith (notify : Notify) (bus : BusId) (event : ChangeEvent) :
    InSystem DeliveryReport := do
  let b ← fromSystem (System.bus · bus)
  deliver notify bus event (b.observers.map Prod.snd)

/-- Announces a change of a store, if the store serves a source. -/
def announceWith (notify : Notify) (id : StoreId) (change : Change) : InSystem Unit := do
  let announced ← modifyGet fun s =>
    let (store, announced) := (s.depot.store id).announce s.now change
    (announced, s.setDepot (s.depot.setStore id store))
  match announced with
  | none => pure ()
  | some (bus, event) =>
    let _ ← publishWith notify bus event

/-- Changes a store and announces what changed. -/
def changeWith {α : Type} (notify : Notify) (id : StoreId)
    (change : Store → Except StoreFault (α × Store × Option Change)) :
    InSystem (Except StoreFault α) := do
  let s ← get
  match change (s.depot.store id) with
  | .error fault => pure (.error fault)
  | .ok (answer, store, changed) =>
    set (s.setDepot (s.depot.setStore id store))
    match changed with
    | some changed => announceWith notify id changed
    | none => pure ()
    pure (.ok answer)

/-- Acts on an event as a scripted observer does. Changes of stores go through `put`. -/
def react (put : StoreId → String → Properties → InSystem (Except StoreFault Unit)) (bus : BusId)
    (event : ChangeEvent) : Reaction → InSystem Notified
  | .accept => pure .done
  | .refuse [] => pure (.failed (.of ("refusing " ++ event.text)))
  | .refuse (outermost :: causes) => pure (.failed ⟨outermost, causes⟩)
  | .panic payload => pure (.panicked payload)
  | .register name => do
    let _ ← withBus bus fun b => b.register (.scripted name .accept)
    pure .done
  | .unregister id => do
    let _ ← withBus bus fun b => b.unregister id
    pure .done
  | .echo source store path =>
    if event.source = source then do
      let id ← withDepot fun d => d.sharedStore store
      match ← put id path [("seen", Value.ofNat event.sequence)] with
      | .ok () => pure .done
      | .error fault => pure (.failed (.of fault.message))
    else pure .done

/-- Tells an observer of an event. -/
def notifyWith (put : StoreId → String → Properties → InSystem (Except StoreFault Unit)) :
    Notify := fun bus observer event =>
  match observer with
  | .scripted name reaction => do
    modify fun s => { s with journal := s.journal.push ⟨name, event⟩ }
    react put bus event reaction
  | .configuration federation root workspace => followConfiguration federation root workspace event
  | .processing service => processEvent service event

/-- Changes a store and announces what changed. Events may be nested `depth` levels deep; a change
below that is made without being announced. -/
def changeStore : {α : Type} → (depth : Nat) → StoreId →
    (Store → Except StoreFault (α × Store × Option Change)) → InSystem (Except StoreFault α)
  | _, 0, id, change => changeWith (fun _ _ _ => pure .done) id change
  | _, depth + 1, id, change =>
    changeWith (notifyWith fun id path properties =>
      changeStore depth id fun s =>
        (s.put path properties).map fun (s, change) => ((), s, some change)) id change

/-- How deep events can be nested: that of a change, and those of the changes that observers make. -/
def System.eventDepth (s : System) : Nat :=
  (s.buses.toList.flatMap Bus.observers).length + 1

/-- Publishes an event. -/
def publish (bus : BusId) (event : ChangeEvent) : InSystem DeliveryReport := do
  let depth ← fromSystem System.eventDepth
  let notify := notifyWith fun id path properties =>
    changeStore depth id fun s =>
      (s.put path properties).map fun (s, change) => ((), s, some change)
  publishWith notify bus event

/-! ## Changing stores -/

/-- Makes a change that is always announced. -/
def announcedChange (id : StoreId) (change : Store → Except StoreFault (Store × Change)) :
    InSystem (Except StoreFault Unit) := do
  let depth ← fromSystem System.eventDepth
  changeStore depth id fun s => (change s).map fun (s, change) => ((), s, some change)

/-- Creates or replaces a node, of the default workspace if none is named. -/
def putNode (id : StoreId) (workspace : Option String) (path : String)
    (properties : Properties) : InSystem (Except StoreFault Unit) :=
  announcedChange id fun s =>
    s.putIn (workspace.getD s.defaultWorkspace) path properties

/-- Sets a property of a node. -/
def setProperty (id : StoreId) (path name : String) (value : Value) :
    InSystem (Except StoreFault Unit) :=
  announcedChange id fun s => s.setProperty path name value

/-- Moves a node with all nodes below it. -/
def moveNode (id : StoreId) (source target : String) : InSystem (Except StoreFault Unit) :=
  announcedChange id fun s => s.move source target

/-- Removes a node with all nodes below it, and tells whether there was one. -/
def removeNode (id : StoreId) (path : String) : InSystem (Except StoreFault Bool) := do
  let depth ← fromSystem System.eventDepth
  changeStore depth id fun s =>
    (s.remove path).map fun (s, change) => (change.isSome, s, change)

end ContentEngine
