import ContentEngine.Proofs.Run.Announced
import ContentEngine.Proofs.Run.Recordings

/-!
# Accounts of operations

What each operation puts on record.  A turn of the background puts a job on record if the actions of the
job's processor come to an end in it, and as what they do.  Whoever waits puts on record what the turns do
that are taken meanwhile, and so do all who register sources or borrow connections.  A reload puts on record
what it finds, and the delivery of an event, observer by observer, what the observer puts on record and then
that it failed, if it did.

## Strategy

The accounts follow the operations piece by piece, and so do the proofs that they tell all.  What processors
do by themselves, and what is done to sources, leaves the logs alone.  Announcements are nested; their
accounts are found, and shown to tell all, by recursion on their depth.
-/

namespace ContentEngine

/-! ## Jobs -/

namespace Unrecorded

theorem outlasts (s₀ : System) : OutlastsActions (Unrecorded s₀) where
  lent _ hs := hs.trans (.of_eq rfl rfl rfl)
  note _ hs := hs.trans (.of_eq rfl rfl rfl)
  permit _ _ hs := hs.trans (.of_eq rfl rfl rfl)

theorem requestPermit (s : System) (id : DispatcherId) (index : JobIndex) :
    Unrecorded s (s.setDispatcher id ((s.dispatcher id).requestPermit index)) := by
  refine setDispatcher ?_
  unfold Dispatcher.requestPermit
  split <;> rfl

end Unrecorded

/-- A connection that was being opened for a borrower arrives. -/
def arrival (id : FederationId) (o : Opening) : InSystem Borrowing :=
  withFederation id fun f d => ((f.resumeBorrow d o).1, f, (f.resumeBorrow d o).2)

theorem tells_arrival (id : FederationId) (o : Opening) : Account.nothing.Tells (arrival id o) :=
  .of_unrecorded fun s => .withFederation id (fun _ _ => rfl) s

section jobs

variable (id : DispatcherId) (index : JobIndex) (job : Job Processor)

namespace Account

/-- The job is put on record if its actions came to an end. -/
def settleJob : Advance → Account
  | .ended ending _ => fun _ => [.ended id ⟨index, job, ending⟩]
  | .paused _ _ _ => nothing

/-- Actions of the job's processor go on. -/
def carryOn (federation : FederationId) (ending : Ending) (actions : List Action) (loan : Option Loan) :
    Account :=
  after (runActions federation ending actions loan) (settleJob id index job)

def invoke : Account := fun s =>
  let script := job.work.processor job.assignment
  carryOn id index job (s.dispatcher id).federation script.ending script.actions none s

def resume (a : Activity) : Account := fun s =>
  let federation := (s.dispatcher id).federation
  match a.opening with
  | none => carryOn id index job federation a.ending a.rest a.loan s
  | some opening =>
    after (arrival federation opening) (fun
      | .done loan => carryOn id index job federation a.ending a.rest (some loan)
      | .failed fault => fun _ => [.ended id ⟨index, job, .failed fault.toFailure⟩]
      | .opening _ _ => nothing) s

/-- The turn of a job, which goes on if it has a permit or gets one. -/
def runJob : Account := fun s =>
  match (s.dispatcher id).jobs[index]? with
  | some ⟨job, .accepted⟩ =>
    if (s.dispatcher id).freePermits = 0 then []
    else invoke id index job (s.setDispatcher id ((s.dispatcher id).requestPermit index))
  | some ⟨job, .permitted⟩ => invoke id index job s
  | some ⟨job, .running a⟩ => resume id index job a s
  | _ => []

end Account

theorem tells_settleJob (ending : Ending) (advance : Advance) :
    (Account.settleJob id index job advance).Tells (settleJob id index job ending advance) := by
  have hwaits : ∀ a, Account.nothing.Tells
      (withDispatcher id fun d => ((), d.setStage index (.running a))) := fun a =>
    .of_unrecorded fun s => .setDispatcher rfl
  cases advance with
  | ended outcome loan =>
      have hgiven : Account.nothing.Tells (giveBack loan) := .of_unrecorded fun s =>
        (Unrecorded.outlasts s).giveBack loan s (.refl s)
      exact .tail hgiven fun _ s => logged_endJob s id ⟨index, job, outcome⟩
  | paused rest loan pause =>
      cases pause with
      | opening o millis => exact .head (hwaits _) fun _ => .of_unrecorded fun s => .of_eq rfl rfl rfl
      | sleep millis => exact .head (hwaits _) fun _ => .of_unrecorded fun s => .of_eq rfl rfl rfl
      | gate name => exact .head (hwaits _) fun _ => .of_unrecorded fun s => .of_eq rfl rfl rfl

theorem tells_carryOn (federation : FederationId) (ending : Ending) (actions : List Action)
    (loan : Option Loan) :
    (Account.carryOn id index job federation ending actions loan).Tells (do
      let advance ← runActions federation ending actions loan
      settleJob id index job ending advance) := by
  have hactions : Account.nothing.Tells (runActions federation ending actions loan) :=
    .of_unrecorded fun s => (Unrecorded.outlasts s).runActions federation ending actions loan s (.refl s)
  exact .tail hactions (tells_settleJob id index job ending)

theorem tells_invoke : (Account.invoke id index job).Tells (invoke id index job) :=
  fun s => tells_carryOn id index job (s.dispatcher id).federation _ _ none s

theorem tells_resume (a : Activity) :
    (Account.resume id index job a).Tells (resume id index job a) := by
  intro s
  unfold resume Account.resume
  rw [fromSystem_bind]
  cases a.opening with
  | none => exact tells_carryOn id index job (s.dispatcher id).federation a.ending a.rest a.loan s
  | some opening =>
      refine Account.Tells.tail (tells_arrival (s.dispatcher id).federation opening) (fun borrowing => ?_) s
      cases borrowing with
      | done loan =>
          exact tells_carryOn id index job (s.dispatcher id).federation a.ending a.rest (some loan)
      | failed fault =>
          exact tells_settleJob id index job a.ending (.ended (.failed fault.toFailure) none)
      | opening o millis =>
          exact tells_settleJob id index job a.ending (.paused a.rest none (.opening o millis))

theorem tells_runJob : (Account.runJob id index).Tells (runJob id index) := by
  intro s
  unfold runJob Account.runJob
  rw [fromSystem_bind]
  cases hjob : (s.dispatcher id).jobs[index]? with
  | none => exact .of_unrecorded (.refl s)
  | some j =>
      obtain ⟨job, stage⟩ := j
      cases stage with
      | accepted =>
          dsimp only
          rw [withDispatcher_bind, fromSystem_bind,
            s.dispatcher_setDispatcher_self (s.dispatcher_lt_of_job hjob)]
          dsimp only
          rw [Dispatcher.jobs_requestPermit_self hjob]
          have hasked := Unrecorded.requestPermit s id index
          by_cases hfree : (s.dispatcher id).freePermits = 0
          · rw [if_pos hfree, if_pos hfree]
            exact .of_unrecorded hasked
          · rw [if_neg hfree, if_neg hfree]
            exact .after hasked (tells_invoke id index job _)
      | permitted => exact tells_invoke id index job s
      | running a => exact tells_resume id index job a s
      | queued => exact .of_unrecorded (.refl s)
      | finished => exact .of_unrecorded (.refl s)

end jobs

/-! ## Turns -/

namespace Unrecorded

theorem shutdownFederation (id : FederationId) (s : System) :
    Unrecorded s ((shutdownFederation id).run s).2 := by
  refine intro (.of_eq rfl) (.of_eq rfl) (.set ?_)
  obtain ⟨lifecycle, heq⟩ := (s.federation id).shutdown_lifecycle s.depot
  have hlog := congrArg Federation.problemLog heq
  exact hlog

theorem closeEngine (id : EngineId) (s : System) : Unrecorded s ((closeEngine id).run s).2 :=
  (shutdownFederation (s.engine id).federation s).trans (.of_eq rfl rfl rfl)

theorem runDrain (id : DispatcherId) (s : System) : Unrecorded s ((runDrain id).run s).2 := by
  have hturn := runDrain_turn id s
  generalize ((ContentEngine.runDrain id).run s).2 = s' at hturn
  cases hturn with
  | idle _ => exact refl s
  | drained _ _ => exact intro (.of_eq rfl) (.set rfl) (.of_eq rfl)

theorem runClose (id : EngineId) (s : System) : Unrecorded s ((runClose id).run s).2 := by
  have hturn := runClose_turn id s
  generalize ((ContentEngine.runClose id).run s).2 = s' at hturn
  cases hturn with
  | idle _ => exact refl s
  | close _ _ => exact closeEngine id s
  | wait _ _ => exact of_eq rfl rfl rfl
  | overdue _ _ => exact (of_eq rfl rfl rfl : Unrecorded s (s.addLog _)).trans (closeEngine id _)

end Unrecorded

namespace Account

/-- A turn of the background, in which a job may end. -/
def turn : Account := fun s =>
  match s.ready with
  | .job id index :: rest => runJob id index { s with ready := rest }
  | _ => []

def takeTurns (deadline : Nat) (stop : System → Bool) : Nat → Account
  | 0 => nothing
  | fuel + 1 => fun s =>
    if s.ready.isEmpty && stop s then []
    else turn.andThen (ContentEngine.turn deadline)
      (fun went => if went then takeTurns deadline stop fuel else nothing) s

/-- Somebody waits, and the background goes on meanwhile. -/
def waitFor (millis : Nat) (stop : System → Bool) : Account := fun s =>
  if stop s then []
  else if millis = 0 then []
  else takeTurns (s.clock + millis) stop s.potential s

def elapse (millis : Nat) : Account :=
  waitFor millis fun _ => false

end Account

theorem tells_turn (deadline : Nat) : Account.turn.Tells (turn deadline) := by
  intro s
  unfold Account.turn
  cases hready : s.ready with
  | nil =>
      rcases turn_cases deadline s with ⟨-, heq⟩ | ⟨-, moment, -, heq⟩ | ⟨errand, rest, hnot, -⟩
      · rw [heq]
        exact .of_unrecorded (.refl s)
      · rw [heq]
        exact .of_unrecorded (.of_eq rfl rfl rfl)
      · exact nomatch hready.symm.trans hnot
  | cons errand rest =>
      have htaken : Unrecorded s { s with ready := rest } := .of_eq rfl rfl rfl
      rw [turn_ready deadline hready]
      cases errand with
      | job id index => exact .after htaken (tells_runJob id index _)
      | drain id => exact .of_unrecorded (htaken.trans (.runDrain id _))
      | close id => exact .of_unrecorded (htaken.trans (.runClose id _))

theorem tells_takeTurns (deadline : Nat) (stop : System → Bool) (fuel : Nat) :
    (Account.takeTurns deadline stop fuel).Tells (takeTurns deadline stop fuel) := by
  induction fuel with
  | zero => exact .answer _
  | succ fuel ih =>
      intro s
      unfold takeTurns Account.takeTurns
      rw [get_bind]
      split
      · exact .of_unrecorded (.refl s)
      · refine Account.Tells.seq (tells_turn deadline) (fun went => ?_) s
        cases went with
        | true => exact ih
        | false => exact .answer _

/-- Whoever has waited until his time is over puts nothing on record any more. -/
theorem tells_wakeDue : Account.nothing.Tells wakeDue := by
  intro s
  unfold wakeDue
  rw [get_bind]
  split
  · rename_i hready
    have hnone : Account.turn s = [] := by
      unfold Account.turn
      rw [List.isEmpty_iff.mp hready]
    have hturn := tells_turn s.clock s
    rw [hnone] at hturn
    exact hturn
  · exact .of_unrecorded (.refl s)

theorem tells_waitFor (millis : Nat) (stop : System → Bool) :
    (Account.waitFor millis stop).Tells (waitFor millis stop) := by
  intro s
  unfold waitFor Account.waitFor
  rw [get_bind]
  split
  · exact .of_unrecorded (.refl s)
  split
  · exact .of_unrecorded (.refl s)
  refine Account.Tells.head (tells_takeTurns (s.clock + millis) stop s.potential) (fun _ s' => ?_) s
  rw [get_bind]
  split
  · exact .of_unrecorded (.refl s')
  · have hpassed : Unrecorded s' { s' with clock := max s'.clock (s.clock + millis) } :=
      .of_eq rfl rfl rfl
    exact .after hpassed (Account.Tells.head tells_wakeDue (fun _ => .answer _) _)

theorem tells_elapse (millis : Nat) : (Account.elapse millis).Tells (elapse millis) :=
  fun s => tells_waitFor millis (fun _ => false) s

/-! ## Sources -/

/-- What a reload finds: what was wrong with the containers that it read and then with applying them, or that
they could not be read. -/
def Federation.reloadProblems (f : Federation) (read : Except Fault (Option Subgraph))
    (applying : Problems) : Problems :=
  match read with
  | .ok container => ((container.map Configuration.sources).getD ([], [])).2 ++ applying
  | .error fault =>
    [(Problem.plain .error "Unable to reload source configuration from '\x7b\x7d'"
      [f.configurationSource]).causedBy fault.message]

section sources

variable (id : FederationId)

namespace Account

/-- An open federation waits for the connector of a source that it registers. -/
def installSource (connector : Connector) : Account := fun s =>
  match (s.federation id).requireOpen with
  | .error _ => []
  | .ok () => elapse connector.manner.delay s

def registerConnector (plan : ConnectorPlan) : Account :=
  after (withDepot fun d => d.build plan) (installSource id)

def registerSource (descriptor : SourceDescriptor) : Account := fun s =>
  match (s.federation id).planFor descriptor with
  | .error _ => []
  | .ok plan => registerConnector id plan s

/-- A borrower waits for a connection that is being opened. -/
def awaitBorrowing : Nat → Borrowing → Account
  | attempts + 1, .opening opening millis =>
    (elapse millis).andThen (ContentEngine.elapse millis) fun _ =>
      after (arrival id opening) (awaitBorrowing attempts)
  | _, _ => nothing

def borrowConnection (name : String) : Account :=
  after (requestConnection id name) (awaitBorrowing id 2)

/-- A graph is read through a connection that is borrowed for it. -/
def subgraph (g : Graph) : Account :=
  borrowConnection g.federation g.source

def scanConfiguration (g : Graph) (root : NodePath) : Account :=
  (subgraph g).andThen (g.subgraph (Configuration.Container.sources.path root) 1) fun _ =>
    (subgraph g).andThen (g.subgraph (Configuration.Container.processors.path root) 1) fun _ =>
      subgraph g

def reconcileOne (current : Table String (Option SourceDescriptor)) (r : Reconciling)
    (d : SourceDescriptor) : Account := fun s =>
  if d.name = (s.federation id).configurationSource then []
  else if r.wanted.contains d.name then []
  else if isCurrent current d then []
  else registerSource id d s

/-- Descriptors are reconciled with one after the other. -/
def reconcile (current : Table String (Option SourceDescriptor)) :
    List SourceDescriptor → Reconciling → Account
  | [], _ => nothing
  | d :: rest, r =>
    (reconcileOne id current r d).andThen (ContentEngine.reconcileOne id current r d)
      (reconcile current rest)

def applyDescriptors (descriptors : List SourceDescriptor) : Account := fun s =>
  reconcile id (currentDescriptors (s.federation id) s.depot) descriptors ⟨[], .none, []⟩ s

/-- An open federation reads its sources and applies what it read.  In the end it puts on record what was
found. -/
def reloadSources (root : NodePath) (workspace : Option String) : Account := fun s =>
  let f := s.federation id
  let graph : Graph := ⟨id, f.configurationSource, workspace⟩
  if f.state.isClosed then []
  else
    (subgraph graph).andThen (graph.subgraph (Configuration.Container.sources.path root) 1) (fun
      | .ok container =>
        let descriptors := ((container.map Configuration.sources).getD ([], [])).1
        (applyDescriptors id descriptors).andThen (ContentEngine.applyDescriptors id descriptors)
          fun applied _ => [.reloaded id (f.reloadProblems (.ok container) applied.2)]
      | .error fault => fun _ => [.reloaded id (f.reloadProblems (.error fault) [])]) s

end Account

theorem tells_writeLog (lines : List LogLine) : Account.nothing.Tells (writeLog lines) :=
  .of_unrecorded fun _ => .of_eq rfl rfl rfl

theorem tells_build (plan : ConnectorPlan) : Account.nothing.Tells (withDepot fun d => d.build plan) :=
  .of_unrecorded fun _ => .of_eq rfl rfl rfl

theorem install_problemLog (f : Federation) (d : Depot) (name : String) (connector : Connector)
    (descriptor : Option SourceDescriptor) :
    (f.install d name connector descriptor).2.1.problemLog = f.problemLog := by
  unfold Federation.install
  split
  · rfl
  split <;> rfl

theorem remove_problemLog (f : Federation) (d : Depot) (name : String) :
    (f.remove d name).2.1.problemLog = f.problemLog := by
  rw [f.remove_federation]
  rfl

theorem tells_installSource (name : String) (connector : Connector)
    (descriptor : Option SourceDescriptor) :
    (Account.installSource id connector).Tells (installSource id name connector descriptor) := by
  have hinstall : Account.nothing.Tells
      (withFederation id fun f d => f.install d name connector descriptor) :=
    .of_unrecorded (.withFederation id fun f d => install_problemLog f d name connector descriptor)
  intro s
  unfold installSource Account.installSource
  rw [fromSystem_bind]
  cases (s.federation id).requireOpen with
  | error fault => exact .of_unrecorded (.refl s)
  | ok _ => exact Account.Tells.head (tells_elapse connector.manner.delay) (fun _ => hinstall) s

theorem tells_registerConnector (name : String) (plan : ConnectorPlan) :
    (Account.registerConnector id plan).Tells (registerConnector id name plan) :=
  .tail (tells_build plan) fun connector => tells_installSource id name connector none

theorem tells_registerSource (descriptor : SourceDescriptor) :
    (Account.registerSource id descriptor).Tells (registerSource id descriptor) := by
  intro s
  unfold registerSource Account.registerSource
  rw [fromSystem_bind]
  cases (s.federation id).planFor descriptor with
  | error fault => exact .of_unrecorded (.refl s)
  | ok plan =>
      exact Account.Tells.tail (tells_build plan)
        (fun connector => tells_installSource id descriptor.name connector (some descriptor)) s

theorem tells_removeSource (name : String) : Account.nothing.Tells (removeSource id name) :=
  .of_unrecorded (.withFederation id fun f d => remove_problemLog f d name)

theorem tells_awaitBorrowing (attempts : Nat) (borrowing : Borrowing) :
    (Account.awaitBorrowing id attempts borrowing).Tells (awaitBorrowing id attempts borrowing) := by
  induction attempts generalizing borrowing with
  | zero => cases borrowing <;> exact .answer _
  | succ attempts ih =>
      cases borrowing with
      | done loan => exact .answer _
      | failed fault => exact .answer _
      | opening o millis => exact .seq (tells_elapse millis) fun _ => .tail (tells_arrival id o) ih

theorem tells_borrowConnection (name : String) :
    (Account.borrowConnection id name).Tells (borrowConnection id name) := by
  have hrequest : Account.nothing.Tells (requestConnection id name) :=
    .of_unrecorded (.withFederation id fun _ _ => rfl)
  exact .tail hrequest (tells_awaitBorrowing id 2)

theorem tells_subgraph (g : Graph) (root : NodePath) (depth : Nat) :
    (Account.subgraph g).Tells (g.subgraph root depth) := by
  unfold Graph.subgraph
  refine .head (tells_borrowConnection g.federation g.source) fun borrowed => ?_
  cases borrowed with
  | error fault => exact .answer _
  | ok loan =>
      have hread : Account.nothing.Tells (withDepot fun d =>
          (d.read loan.connection g.workspace root depth, d.release loan)) :=
        .of_unrecorded fun _ => .of_eq rfl rfl rfl
      refine .head hread fun result => ?_
      cases result <;> exact .answer _

theorem tells_scanConfiguration (g : Graph) (root : NodePath) :
    (Account.scanConfiguration g root).Tells (scanConfiguration g root) :=
  .seq (tells_subgraph g _ 1) fun _ => .seq (tells_subgraph g _ 1) fun _ =>
    .head (tells_subgraph g _ 1) fun _ => .answer _

theorem tells_reconcileOne (current : Table String (Option SourceDescriptor)) (r : Reconciling)
    (d : SourceDescriptor) :
    (Account.reconcileOne id current r d).Tells (reconcileOne id current r d) := by
  intro s
  unfold reconcileOne Account.reconcileOne
  rw [fromSystem_bind]
  split
  · exact .of_unrecorded (.refl s)
  split
  · exact .of_unrecorded (.refl s)
  dsimp only
  split
  · exact .of_unrecorded (.refl s)
  · refine Account.Tells.head (tells_registerSource id d) (fun result => ?_) s
    cases result <;> exact .answer _

theorem tells_reconcile (current : Table String (Option SourceDescriptor))
    (descriptors : List SourceDescriptor) (r : Reconciling) :
    (Account.reconcile id current descriptors r).Tells
      (descriptors.foldlM (reconcileOne id current) r) := by
  induction descriptors generalizing r with
  | nil => exact .answer _
  | cons d rest ih =>
      rw [List.foldlM_cons]
      exact .seq (tells_reconcileOne id current r d) ih

theorem tells_reconcileRemoval (entries : Table String (Option SourceDescriptor)) (r : Reconciling) :
    Account.nothing.Tells (entries.foldlM (reconcileRemoval id) r) := by
  induction entries generalizing r with
  | nil => exact .answer _
  | cons entry rest ih =>
      rw [List.foldlM_cons]
      refine .head ?_ ih
      unfold reconcileRemoval
      split
      · refine .head (tells_removeSource id entry.1) fun removed => ?_
        cases removed <;> exact .answer _
      · exact .answer _

theorem tells_applyDescriptors (descriptors : List SourceDescriptor) :
    (Account.applyDescriptors id descriptors).Tells (applyDescriptors id descriptors) := by
  intro s
  unfold applyDescriptors Account.applyDescriptors
  rw [get_bind]
  exact Account.Tells.head (tells_reconcile id _ descriptors _)
    (fun r => .head (tells_reconcileRemoval id _ r) fun _ => .answer _) s

theorem tells_reloadSources (root : NodePath) (workspace : Option String) :
    (Account.reloadSources id root workspace).Tells (reloadSources id root workspace) := by
  intro s
  unfold reloadSources Account.reloadSources
  rw [fromSystem_bind]
  dsimp only
  split
  · exact .of_unrecorded (.refl s)
  have hfinish : ∀ problems : Problems, Account.Tells (fun _ => [.reloaded id problems]) (do
      writeLog (problems.map fun p => .tagged .warning (s.federation id).engine p.text)
      withFederation id fun f d => ((), f.recordProblems problems, d)
      pure problems : InSystem Problems) := fun problems => by
    have hrecords : Account.Tells (fun _ => [.reloaded id problems])
        (withFederation id fun f d => ((), f.recordProblems problems, d)) :=
      fun s => logged_recordProblems s id problems
    exact .tail (tells_writeLog _) fun _ => .head hrecords fun _ => .answer _
  refine Account.Tells.seq (tells_subgraph _ _ 1) (fun read => ?_) s
  cases read with
  | error fault => exact hfinish _
  | ok container => exact .seq (tells_applyDescriptors id _) fun _ => hfinish _

end sources

/-! ## Announcements -/

namespace Account

/-- Observers are told of an event one after the other.  What one of them puts on record itself comes before
its failure, if it fails. -/
def deliver (notify : Notify) (told : Observer → Account) (bus : BusId) (event : ChangeEvent) :
    List Observer → Account
  | [] => nothing
  | observer :: rest =>
    (told observer).andThen (notify bus observer event) fun outcome s =>
      Recording.ofOutcome bus observer event outcome ++
        deliver notify told bus event rest (s.conclude bus event observer outcome)

/-- What observers of buses put on record when they are told of events. -/
abbrev OfObservers :=
  BusId → ChangeEvent → Observer → Account

def publishWith (notify : Notify) (told : OfObservers) (bus : BusId) (event : ChangeEvent) : Account :=
  fun s => deliver notify (told bus event) bus event ((s.bus bus).observers.map Prod.snd) s

def announceWith (notify : Notify) (told : OfObservers) (id : StoreId) (change : Change) : Account :=
  after (modifyGet fun s =>
    let (store, announced) := (s.depot.store id).announce s.now change
    (announced, s.setDepot (s.depot.setStore id store))) fun
  | none => nothing
  | some (bus, event) => publishWith notify told bus event

/-- A change of a store is announced if there is one. -/
def changeWith (notify : Notify) (told : OfObservers) (id : StoreId)
    (change : Store → Except StoreFault (Store × Option Change)) : Account := fun s =>
  match change (s.depot.store id) with
  | .ok (store, some changed) =>
    announceWith notify told id changed (s.setDepot (s.depot.setStore id store))
  | _ => []

def followConfiguration (id : FederationId) (root : NodePath) (workspace : Option String)
    (event : ChangeEvent) : Account := fun s =>
  if concernsSources (s.federation id) root workspace event then reloadSources id root workspace s else []

/-- An observer that changes another store puts on record what comes of announcing that, and one that follows
the configuration what comes of reloading. -/
def notifyWith (put : StoreId → String → Properties → Account) : OfObservers := fun _ event observer =>
  match observer with
  | .scripted name (.echo source store path) =>
    after (modify fun s => { s with journal := s.journal.push ⟨name, event⟩ }) fun _ =>
      if event.source = source then
        after (withDepot fun d => d.sharedStore store) fun id =>
          put id path [("seen", Value.ofNat event.sequence)]
      else nothing
  | .scripted _ _ => nothing
  | .configuration federation root workspace => followConfiguration federation root workspace event
  | .processing _ => nothing

def changeStore : Nat → StoreId → (Store → Except StoreFault (Store × Option Change)) → Account
  | 0, id, change => changeWith (fun _ _ _ => pure .done) (fun _ _ _ => nothing) id change
  | depth + 1, id, change =>
    changeWith (notifyNested depth)
      (notifyWith fun id path properties => changeStore depth id fun s =>
        (s.put path properties).map fun (s, change) => (s, some change)) id change

/-- What observers put on record if the changes that they make are announced `depth` levels deep. -/
def notifyNested (depth : Nat) : OfObservers :=
  notifyWith fun id path properties => changeStore depth id fun s =>
    (s.put path properties).map fun (s, change) => (s, some change)

def publish (bus : BusId) (event : ChangeEvent) : Account := fun s =>
  publishWith (ContentEngine.notifyNested s.eventDepth) (notifyNested s.eventDepth) bus event s

end Account

theorem tells_submitWork (id : DispatcherId) (work : WorkItem Processor) :
    Account.nothing.Tells (submitWork id work) := by
  refine .of_unrecorded fun s => ?_
  by_cases haccepts : ((s.dispatcher id).accepting && (s.dispatcher id).lifecycle.isRunning) = true
  · rw [submitWork_accepted work haccepts]
    exact .intro (.of_eq rfl) (.set rfl) (.of_eq rfl)
  · rw [submitWork_rejected work haccepts]
    exact .intro (.of_eq rfl) (.set rfl) (.of_eq rfl)

theorem tells_processEvent (id : ServiceId) (event : ChangeEvent) :
    Account.nothing.Tells (processEvent id event) := by
  have hsubmitAll : ∀ dispatcher works, Account.nothing.Tells (submitAll dispatcher works) := by
    intro dispatcher works
    induction works with
    | nil => exact .answer _
    | cons work rest ih =>
        refine .head (tells_submitWork dispatcher work) fun submitted => .head ih fun faults => ?_
        cases submitted.2 <;> exact .answer _
  intro s
  unfold processEvent
  split
  · exact .of_unrecorded (.refl s)
  · rw [fromSystem_bind]
    refine Account.Tells.head (tells_writeLog _) (fun _ => .head (hsubmitAll _ _) fun faults => ?_) s
    split <;> exact .answer _

theorem tells_followConfiguration (id : FederationId) (root : NodePath) (workspace : Option String)
    (event : ChangeEvent) :
    (Account.followConfiguration id root workspace event).Tells
      (followConfiguration id root workspace event) := by
  intro s
  unfold followConfiguration Account.followConfiguration
  rw [fromSystem_bind]
  split
  · refine Account.Tells.head (tells_reloadSources id root workspace) (fun problems => ?_) s
    split <;> exact .answer _
  · exact .of_unrecorded (.refl s)

section announcements

variable {notify : Notify} {told : Account.OfObservers}

theorem tells_deliver (bus : BusId) (event : ChangeEvent)
    (hnotify : ∀ observer, (told bus event observer).Tells (notify bus observer event))
    (observers : List Observer) :
    (Account.deliver notify (told bus event) bus event observers).Tells
      (deliver notify bus event observers) := by
  induction observers with
  | nil => exact .answer _
  | cons observer rest ih =>
      intro s
      rw [deliver_cons_run]
      exact (hnotify observer s).trans ((logged_conclude _ bus event observer _).trans (ih _))

variable (hnotify : ∀ bus event observer, (told bus event observer).Tells (notify bus observer event))
include hnotify

theorem tells_publishWith (bus : BusId) (event : ChangeEvent) :
    (Account.publishWith notify told bus event).Tells (publishWith notify bus event) :=
  fun s => tells_deliver bus event (hnotify bus event) ((s.bus bus).observers.map Prod.snd) s

theorem tells_announceWith (id : StoreId) (change : Change) :
    (Account.announceWith notify told id change).Tells (announceWith notify id change) := by
  refine .tail (.of_unrecorded fun _ => .of_eq rfl rfl rfl) fun announced => ?_
  match announced with
  | none => exact .answer _
  | some (bus, event) => exact .head (tells_publishWith hnotify bus event) fun _ => .answer _

theorem tells_changeWith {α : Type} (id : StoreId)
    (change : Store → Except StoreFault (α × Store × Option Change)) :
    (Account.changeWith notify told id fun s => (change s).map Prod.snd).Tells
      (changeWith notify id change) := by
  intro s
  unfold Account.changeWith
  rw [Following.changeWith_run]
  dsimp only
  cases change (s.depot.store id) with
  | error fault => exact .of_unrecorded (.refl s)
  | ok changed =>
      obtain ⟨answer, store, none | changed⟩ := changed
      · exact .of_unrecorded (.of_eq rfl rfl rfl)
      · have hset : Unrecorded s (s.setDepot (s.depot.setStore id store)) := .of_eq rfl rfl rfl
        exact .after hset (tells_announceWith hnotify id changed _)

end announcements

theorem tells_notifyWith {put : StoreId → String → Properties → InSystem (Except StoreFault Unit)}
    {account : StoreId → String → Properties → Account}
    (hput : ∀ id path properties, (account id path properties).Tells (put id path properties))
    (bus : BusId) (event : ChangeEvent) (observer : Observer) :
    (Account.notifyWith account bus event observer).Tells (notifyWith put bus observer event) := by
  have hact : ∀ {α : Type} {f : Bus → α × Bus} (act : Bus.Act), act.problem? = none →
      (∀ b, (f b).2 = b.after act) → Account.nothing.Tells (withBus bus f) :=
    fun act hproblem hf => .of_unrecorded fun s => by
      change Unrecorded s (s.setBus bus _)
      rw [hf]
      exact .act s bus hproblem
  cases observer with
  | scripted name reaction =>
      have hnoted : Account.nothing.Tells
          (modify fun s => { s with journal := s.journal.push ⟨name, event⟩ }) :=
        .of_unrecorded fun _ => .of_eq rfl rfl rfl
      cases reaction with
      | echo source store path =>
          unfold Account.notifyWith notifyWith
          refine .tail hnoted fun _ => ?_
          have hshared : Account.nothing.Tells (withDepot fun d => d.sharedStore store) :=
            .of_unrecorded fun _ => .of_eq rfl rfl rfl
          unfold react
          dsimp only
          by_cases hsource : event.source = source
          · rw [if_pos hsource, if_pos hsource]
            refine .tail hshared fun id => .head (hput id path _) fun result => ?_
            cases result <;> exact .answer _
          · rw [if_neg hsource, if_neg hsource]
            exact .answer _
      | accept => exact .head hnoted fun _ => .answer _
      | refuse causes =>
          refine .head hnoted fun _ => ?_
          cases causes <;> exact .answer _
      | panic payload => exact .head hnoted fun _ => .answer _
      | register other =>
          exact .head hnoted fun _ =>
            .head (hact (.register (.scripted other .accept)) rfl fun _ => rfl) fun _ => .answer _
      | unregister number =>
          exact .head hnoted fun _ =>
            .head (hact (.unregister number) rfl fun _ => rfl) fun _ => .answer _
  | configuration federation root workspace =>
      exact tells_followConfiguration federation root workspace event
  | processing service => exact tells_processEvent service event

/-- What it puts on record to put a node depends on no answer. -/
private theorem tells_put {depth : Nat} {id : StoreId} {path : String} {properties : Properties}
    (h : ∀ change : Store → Except StoreFault (Unit × Store × Option Change),
      (Account.changeStore depth id fun s => (change s).map Prod.snd).Tells (changeStore depth id change)) :
    (Account.changeStore depth id fun s =>
        (s.put path properties).map fun (s, change) => (s, some change)).Tells
      (changeStore depth id fun s =>
        (s.put path properties).map fun (s, change) => ((), s, some change)) := by
  have hput := h fun s => (s.put path properties).map fun (s, change) => ((), s, some change)
  have hsame : (fun s : Store =>
      ((s.put path properties).map fun (s, change) => ((), s, some change)).map Prod.snd) =
        fun s => (s.put path properties).map fun (s, change) => (s, some change) :=
    funext fun s => by cases s.put path properties <;> rfl
  rwa [hsame] at hput

/-- A change of a store puts on record what the account says, however deep announcements may be nested. -/
theorem tells_changeStore {α : Type} (depth : Nat) (id : StoreId)
    (change : Store → Except StoreFault (α × Store × Option Change)) :
    (Account.changeStore depth id fun s => (change s).map Prod.snd).Tells (changeStore depth id change) := by
  induction depth generalizing α id with
  | zero =>
      unfold changeStore Account.changeStore
      exact tells_changeWith (fun _ _ _ => .answer _) id change
  | succ depth ih =>
      unfold changeStore Account.changeStore
      exact tells_changeWith (fun bus event observer =>
        tells_notifyWith (fun id _ _ => tells_put (ih id)) bus event observer) id change

theorem tells_publish (bus : BusId) (event : ChangeEvent) :
    (Account.publish bus event).Tells (publish bus event) := by
  intro s
  rw [publish_run]
  refine tells_publishWith (fun bus event observer => ?_) bus event s
  exact tells_notifyWith (fun id _ _ => tells_put (tells_changeStore s.eventDepth id)) bus event observer

end ContentEngine
