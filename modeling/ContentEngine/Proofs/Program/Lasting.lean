import ContentEngine.Proofs.Bus.Acts
import ContentEngine.Proofs.Program.Ensures
import ContentEngine.Proofs.Program.Parts

/-!
# Conditions that outlast every operation

The operations on sources, stores and buses are made of a few parts: a source is installed or
removed, a connection is requested, arrives or is given back, a job is submitted, time passes and
lets the background go on, and much else changes that is nobody's property.  A condition that
outlasts each of these parts is `Lasting`, and then it outlasts every operation: this is shown here
once, for all conditions.  A condition on buses and services cannot outlast all changes of these; it is
`Steady` if it outlasts the acts on buses, and then it outlasts all operations on sources and stores.  One
on the changes that stores have counted cannot outlast changes of stores either; it is `Hardy` if it
outlasts the rest, and then it outlasts all operations on sources.  And one on what was put on record
is `Tough` at most: it outlasts the operations on sources that put nothing on record.

Callers may hold connections, and may wait for connections that are being opened, while an operation
runs.  A condition therefore depends on the list of what callers hold: `P held s`.  Whoever borrows a
connection adds a stake to that list, and whoever gives it back takes the stake away.
-/

namespace ContentEngine

/-! ## Stakes -/

/-- What a caller holds: a connection, or the promise of one that is being opened. -/
inductive Stake where
  | loan (l : Loan)
  | opening (o : Opening)
  deriving DecidableEq

/-- What somebody who asked for a connection holds then. -/
def Borrowing.stakes : Borrowing → List Stake
  | .done loan => [.loan loan]
  | .failed _ => []
  | .opening o _ => [.opening o]

/-- What somebody holds who waited for a connection to the end. -/
def stakesOf : Except Fault Loan → List Stake
  | .ok loan => [.loan loan]
  | .error _ => []

/-! ## Changes that are nobody's property -/

/-- The second system differs from the first in stores, buses, records and problems only: all
connections, pools, components and errands are the same. -/
structure Aside (s s' : System) : Prop where
  clock : s'.clock = s.clock
  connections : s'.depot.connections = s.depot.connections
  pools : s'.depot.pools = s.depot.pools
  federations_size : s'.federations.size = s.federations.size
  federations : ∀ id, ∃ problems, s'.federation id = { s.federation id with problems := problems }
  dispatchers : s'.dispatchers = s.dispatchers
  engines : s'.engines = s.engines
  gates : s'.gates = s.gates
  ready : s'.ready = s.ready
  timers : s'.timers = s.timers
  nextJob : s'.nextJob = s.nextJob

/-- A change that leaves all federations alone. -/
theorem Aside.of_eq {s s' : System} (hclock : s'.clock = s.clock)
    (hconnections : s'.depot.connections = s.depot.connections)
    (hpools : s'.depot.pools = s.depot.pools) (hfederations : s'.federations = s.federations)
    (hdispatchers : s'.dispatchers = s.dispatchers) (hengines : s'.engines = s.engines)
    (hgates : s'.gates = s.gates) (hready : s'.ready = s.ready) (htimers : s'.timers = s.timers)
    (hnextJob : s'.nextJob = s.nextJob) : Aside s s' where
  clock := hclock
  connections := hconnections
  pools := hpools
  federations_size := by rw [hfederations]
  federations := fun id => ⟨(s.federation id).problems, by simp only [System.federation, hfederations]⟩
  dispatchers := hdispatchers
  engines := hengines
  gates := hgates
  ready := hready
  timers := htimers
  nextJob := hnextJob

/-- The second system differs from the first in stores, records and problems of federations only. -/
structure Beside (s s' : System) : Prop extends Aside s s' where
  buses : s'.buses = s.buses
  services : s'.services = s.services

theorem Aside.addLog (s : System) (lines : List LogLine) : Aside s (s.addLog lines) :=
  .of_eq rfl rfl rfl rfl rfl rfl rfl rfl rfl rfl

theorem Aside.setBus (s : System) (id : BusId) (b : Bus) : Aside s (s.setBus id b) :=
  .of_eq rfl rfl rfl rfl rfl rfl rfl rfl rfl rfl

theorem Aside.setDepot {s : System} {d : Depot} (hconnections : d.connections = s.depot.connections)
    (hpools : d.pools = s.depot.pools) : Aside s (s.setDepot d) :=
  .of_eq rfl hconnections hpools rfl rfl rfl rfl rfl rfl rfl

theorem Aside.recordProblems (s : System) (id : FederationId) (problems : Problems) :
    Aside s (s.setFederation id ((s.federation id).recordProblems problems)) where
  clock := rfl
  connections := rfl
  pools := rfl
  federations_size := Array.size_setIfInBounds
  federations := by
    intro other
    rw [s.federation_setFederation]
    split
    · rename_i hother
      obtain ⟨rfl, _⟩ := hother
      exact ⟨_, rfl⟩
    · exact ⟨_, rfl⟩
  dispatchers := rfl
  engines := rfl
  gates := rfl
  ready := rfl
  timers := rfl
  nextJob := rfl

/-- Stores were made and named, and nothing else changed. -/
structure Depot.Extends (d d' : Depot) : Prop where
  connections : d'.connections = d.connections
  pools : d'.pools = d.pools
  size : d.stores.size ≤ d'.stores.size
  stores : ∀ id < d.stores.size, d'.store id = d.store id

namespace Depot.Extends

theorem refl (d : Depot) : Extends d d :=
  ⟨rfl, rfl, Nat.le_refl _, fun _ _ => rfl⟩

theorem addStore (d : Depot) (added : Store) : Extends d (d.addStore added).2 where
  connections := rfl
  pools := rfl
  size := Nat.le_trans (Nat.le_succ _) (Nat.le_of_eq (Array.size_push _).symm)
  stores _ hid := (System.getD_push ..).trans (if_neg (Nat.ne_of_lt hid))

theorem sharedStore (d : Depot) (name : String) : Extends d (d.sharedStore name).2 := by
  unfold Depot.sharedStore
  split
  · exact refl d
  · have hadded := addStore d Store.new
    exact ⟨hadded.connections, hadded.pools, hadded.size, hadded.stores⟩

/-- A connector that is made adds a store at most. -/
theorem build (d : Depot) (plan : ConnectorPlan) : Extends d (d.build plan).2 := by
  unfold Depot.build
  cases plan.store with
  | own store => exact addStore d store
  | shared name => exact sharedStore d name

end Depot.Extends

/-- The second system differs from the first in stores, records and problems of federations only, and no
store has counted a change. -/
structure Slight (s s' : System) : Prop extends Beside s s' where
  size : s.depot.stores.size ≤ s'.depot.stores.size
  sequences : ∀ id < s.depot.stores.size,
    (s'.depot.store id).sequence = (s.depot.store id).sequence

namespace Slight

variable {s s' : System}

/-- A change that leaves the depot alone. -/
theorem of_depot (h : Beside s s') (hdepot : s'.depot = s.depot) : Slight s s' where
  toBeside := h
  size := Nat.le_of_eq (by rw [hdepot])
  sequences _ _ := by rw [hdepot]

theorem setDepot {d : Depot} (h : s.depot.Extends d) : Slight s (s.setDepot d) where
  toBeside := ⟨.setDepot h.connections h.pools, rfl, rfl⟩
  size := h.size
  sequences id hid := congrArg Store.sequence (h.stores id hid)

end Slight

/-! ## The background -/

/-- A condition outlasts turns of the background and the passing of time. -/
structure Enduring (P : System → Prop) : Prop where
  turn : ∀ deadline, Ensures P (turn deadline) fun _ => P
  pass : ∀ moment {s}, P s → P { s with clock := max s.clock moment }

namespace Enduring

variable {P : System → Prop} (enduring : Enduring P)
include enduring

theorem takeTurns (deadline : Nat) (stop : System → Bool) (fuel : Nat) :
    Ensures P (takeTurns deadline stop fuel) fun _ => P := by
  induction fuel with
  | zero => exact .answer fun _ hs => hs
  | succ fuel ih =>
      unfold ContentEngine.takeTurns
      refine .seq (.read (Q := fun _ => P) fun _ hs => hs) fun s => ?_
      split
      · exact .answer fun _ hs => hs
      · refine .andThen (enduring.turn deadline) fun went => ?_
        cases went with
        | false => exact .answer fun _ hs => hs
        | true => exact ih

theorem wakeDue : Ensures P wakeDue fun _ => P := by
  unfold ContentEngine.wakeDue
  refine .seq (.read (Q := fun _ => P) fun _ hs => hs) fun s => ?_
  split
  · exact .andThen (enduring.turn s.clock) fun _ => .answer fun _ hs => hs
  · exact .answer fun _ hs => hs

theorem waitFor (millis : Nat) (stop : System → Bool) :
    Ensures P (waitFor millis stop) fun _ => P := by
  unfold ContentEngine.waitFor
  refine .seq (.read (Q := fun _ => P) fun _ hs => hs) fun s => ?_
  split
  · exact .answer fun _ hs => hs
  split
  · exact .answer fun _ hs => hs
  refine .andThen (enduring.takeTurns _ _ _) fun _ => ?_
  refine .seq (.read (Q := fun s' s'' => s'' = s' ∧ P s') fun _ hs => ⟨rfl, hs⟩) fun s' => ?_
  split
  · exact .answer fun _ hs => hs.1 ▸ hs.2
  · refine .andThen (R := P) (.write fun s'' hs => enduring.pass _ hs.2) fun _ => ?_
    exact .andThen enduring.wakeDue fun _ => .answer fun _ hs => hs

theorem elapse (millis : Nat) : Ensures P (elapse millis) fun _ => P :=
  .image (enduring.waitFor millis _)

end Enduring

/-! ## Lasting conditions -/

section submissions

variable {P : System → Prop}

theorem ensures_submitAll {id : DispatcherId} {works : List (WorkItem Processor)}
    (hsubmit : ∀ work ∈ works, Ensures P (submitWork id work) fun _ => P) :
    Ensures P (submitAll id works) fun _ => P := by
  induction works with
  | nil => exact .answer fun _ hs => hs
  | cons work rest ih =>
      obtain ⟨hfirst, hrest⟩ := List.forall_mem_cons.mp hsubmit
      unfold submitAll
      refine .andThen hfirst fun outcome => ?_
      refine .andThen (ih hrest) fun faults => ?_
      cases outcome.2 <;> exact .answer fun _ hs => hs

/-- What outlasts log lines and the submissions of a service outlasts an event that it is told of. -/
theorem ensures_processEvent {id : ServiceId} {event : ChangeEvent} (reads : Service → Prop)
    (hlog : ∀ lines, Ensures P (writeLog lines) fun _ => P) (hread : ∀ s, P s → reads (s.service id))
    (hsubmit : ∀ v, reads v → ∀ work ∈ RuleMatcher.workFor v.rules event,
      Ensures P (submitWork v.dispatcher work) fun _ => P) :
    Ensures P (processEvent id event) fun _ => P := by
  unfold processEvent
  split
  · exact .answer fun _ hs => hs
  refine .seq (.part (Q := fun v s => P s ∧ reads v) fun s hs => ⟨hs, hread s hs⟩) fun v => ?_
  refine .given fun hv => ?_
  refine .andThen (hlog _) fun _ => ?_
  refine .andThen (ensures_submitAll fun work hwork => hsubmit v hv work hwork) fun faults => ?_
  split <;> exact .answer fun _ hs => hs

end submissions

/-- The service that an observer works for, if there is one, is among those that are heard. -/
def Observer.IsHeard (heard : ServiceId → Prop) : Observer → Prop
  | scripted _ _ => True
  | configuration _ _ _ => True
  | processing id => heard id

theorem Observer.isHeard_all (o : Observer) : o.IsHeard fun _ => True := by
  cases o <;> trivial

theorem Observer.IsHeard.mono {heard heard' : ServiceId → Prop} {o : Observer} (h : o.IsHeard heard)
    (himp : ∀ id, heard id → heard' id) : o.IsHeard heard' := by
  cases o with
  | scripted name reaction => trivial
  | configuration federation root workspace => trivial
  | processing id => exact himp id h

/-- No other services observe a bus than those that are heard there. -/
def System.HearsAt (s : System) (heard : BusId → ServiceId → Prop) : Prop :=
  ∀ bus, ∀ entry ∈ (s.bus bus).observers, entry.2.IsHeard (heard bus)

namespace System.HearsAt

variable {heard heard' : BusId → ServiceId → Prop} {s s' : System}

theorem mono (h : s.HearsAt heard) (himp : ∀ bus id, heard bus id → heard' bus id) :
    s.HearsAt heard' :=
  fun bus entry hentry => (h bus entry hentry).mono (himp bus)

theorem of_buses (h : s.HearsAt heard) (hbuses : s'.buses = s.buses) : s'.HearsAt heard := by
  intro id entry hentry
  rw [System.bus, hbuses] at hentry
  exact h id entry hentry

/-- Acts that register no service leave it so. -/
theorem act (h : s.HearsAt heard) (id : BusId) {act : Bus.Act} (hact : act.enlists = none) :
    (s.setBus id ((s.bus id).after act)).HearsAt heard := by
  intro bus entry hentry
  rw [s.bus_setBus] at hentry
  split at hentry
  · rename_i hbus
    rw [hbus.1]
    cases act with
    | register o =>
        rcases List.mem_append.mp hentry with hentry | hentry
        · exact h id entry hentry
        · obtain rfl := List.mem_singleton.mp hentry
          cases o with
          | processing service => cases hact
          | _ => trivial
    | unregister number => exact h id entry (List.mem_filter.mp hentry).1
    | fail observer event cause => exact h id entry hentry
  · exact h bus entry hentry

end System.HearsAt

/-- No other services observe buses than those that are heard. -/
def System.Hears (s : System) (heard : ServiceId → Prop) : Prop :=
  ∀ bus, ∀ entry ∈ (s.bus bus).observers, entry.2.IsHeard heard

namespace System.Hears

variable {heard : ServiceId → Prop} {s s' : System}

theorem of_buses (h : s.Hears heard) (hbuses : s'.buses = s.buses) : s'.Hears heard := by
  have hat : s.HearsAt fun _ => heard := h
  exact hat.of_buses hbuses

/-- Acts that register no service leave it so. -/
theorem act (h : s.Hears heard) (id : BusId) {act : Bus.Act} (hact : act.enlists = none) :
    (s.setBus id ((s.bus id).after act)).Hears heard := by
  have hat : s.HearsAt fun _ => heard := h
  exact hat.act id hact

end System.Hears

/-- A condition outlasts each part that operations on sources are made of, as long as no failures and no
problems are put on record, and acts on buses that register no service. -/
structure Tough (P : List Stake → System → Prop) : Prop where
  slim : ∀ {held s s'}, Slight s s' → s'.federations = s.federations → P held s → P held s'
  attend : ∀ {held s} id act, act.enlists = none → act.problem? = none → P held s →
    P held (s.setBus id ((s.bus id).after act))
  turn : ∀ deadline held, Ensures (P held) (turn deadline) fun _ => P held
  pass : ∀ moment {held s}, P held s → P held { s with clock := max s.clock moment }
  install : ∀ id name connector descriptor held,
    Ensures (P held) (withFederation id fun f d => f.install d name connector descriptor)
      fun _ => P held
  remove : ∀ id name held, Ensures (P held) (removeSource id name) fun _ => P held
  request : ∀ id name held,
    Ensures (P held) (requestConnection id name) fun b => P (b.stakes ++ held)
  resume : ∀ id o held,
    Ensures (P (.opening o :: held))
      (withFederation id fun f d => ((f.resumeBorrow d o).1, f, (f.resumeBorrow d o).2))
      fun b => P (b.stakes ++ held)
  abandon : ∀ {o held s}, P (.opening o :: held) s → P held s
  giveBack : ∀ loan held, Ensures (P (.loan loan :: held)) (giveBack (some loan)) fun _ => P held

/-- A condition outlasts each part that operations on sources are made of, whatever is put on record, and
acts on buses that register no service. -/
structure Hardy (P : List Stake → System → Prop) : Prop extends Tough P where
  slight : ∀ {held s s'}, Slight s s' → P held s → P held s'
  act : ∀ {held s} id act, act.enlists = none → P held s →
    P held (s.setBus id ((s.bus id).after act))
  slim := fun hslight _ hs => slight hslight hs
  attend := fun id _ henlists _ hs => act id _ henlists hs

/-- A condition outlasts each part that operations on sources are made of, and changes of stores as
well. -/
structure Sturdy (P : List Stake → System → Prop) : Prop extends Hardy P where
  beside : ∀ {held s s'}, Beside s s' → P held s → P held s'
  slight := fun hslight hs => beside hslight.toBeside hs

/-- Conditions that each outlast all parts of operations do so together: one of them holds then. -/
theorem Sturdy.exists {ι : Type} {P : ι → List Stake → System → Prop} (h : ∀ i, Sturdy (P i)) :
    Sturdy fun held s => ∃ i, P i held s where
  beside hbeside := fun ⟨i, hs⟩ => ⟨i, (h i).beside hbeside hs⟩
  act id act hact := fun ⟨i, hs⟩ => ⟨i, (h i).act id act hact hs⟩
  turn deadline held s := fun ⟨i, hs⟩ => ⟨i, (h i).turn deadline held s hs⟩
  pass moment := fun ⟨i, hs⟩ => ⟨i, (h i).pass moment hs⟩
  install id name connector descriptor held s := fun ⟨i, hs⟩ =>
    ⟨i, (h i).install id name connector descriptor held s hs⟩
  remove id name held s := fun ⟨i, hs⟩ => ⟨i, (h i).remove id name held s hs⟩
  request id name held s := fun ⟨i, hs⟩ => ⟨i, (h i).request id name held s hs⟩
  resume id o held s := fun ⟨i, hs⟩ => ⟨i, (h i).resume id o held s hs⟩
  abandon := fun ⟨i, hs⟩ => ⟨i, (h i).abandon hs⟩
  giveBack loan held s := fun ⟨i, hs⟩ => ⟨i, (h i).giveBack loan held s hs⟩

/-- A condition outlasts each part that operations on sources and stores are made of, as long as no other
services observe buses than those that are heard. -/
structure Robust (heard : ServiceId → Prop) (P : List Stake → System → Prop) : Prop
    extends Sturdy P where
  process : ∀ id event held, heard id → Ensures (P held) (processEvent id event) fun _ => P held
  listed : ∀ {held s}, P held s → s.Hears heard

/-- A condition outlasts each part that operations on sources and stores are made of, whoever observes
buses. -/
structure Steady (P : List Stake → System → Prop) : Prop extends Robust (fun _ => True) P where
  submit : ∀ id work held, Ensures (P held) (submitWork id work) fun _ => P held
  process := fun _ _ held _ => ensures_processEvent (fun _ => True)
    (fun lines => .update fun s hs => beside ⟨.addLog s lines, rfl, rfl⟩ hs) (fun _ _ => trivial)
    fun v _ work _ => submit v.dispatcher work held
  listed := fun _ _ entry _ => entry.2.isHeard_all

/-- A condition outlasts each part that operations are made of. -/
structure Lasting (P : List Stake → System → Prop) : Prop extends Steady P where
  aside : ∀ {held s s'}, Aside s s' → P held s → P held s'
  beside := fun hbeside hs => aside hbeside.toAside hs
  act := fun {_ s} id _ _ hs => aside (Aside.setBus s id _) hs

namespace Tough

variable {P : List Stake → System → Prop} (lasting : Tough P) (held : List Stake)
include lasting

/-! ### Time -/

theorem enduring : Enduring (P held) :=
  ⟨fun deadline => lasting.turn deadline held, fun moment => lasting.pass moment⟩

theorem elapse (millis : Nat) : Ensures (P held) (elapse millis) fun _ => P held :=
  (lasting.enduring held).elapse millis

/-! ### Sources -/

theorem writeLog (lines : List LogLine) : Ensures (P held) (writeLog lines) fun _ => P held :=
  .update fun s hs => lasting.slim (.of_depot ⟨.addLog s lines, rfl, rfl⟩ rfl) rfl hs

theorem build (plan : ConnectorPlan) :
    Ensures (P held) (withDepot fun d => d.build plan) fun _ => P held :=
  .exchange fun s hs => lasting.slim (.setDepot (.build s.depot plan)) rfl hs

theorem installSource (id : FederationId) (name : String) (connector : Connector)
    (descriptor : Option SourceDescriptor) :
    Ensures (P held) (installSource id name connector descriptor) fun _ => P held := by
  unfold ContentEngine.installSource
  refine .seq (.part (Q := fun _ => P held) fun _ hs => hs) fun f => ?_
  cases f.requireOpen with
  | error fault => exact .answer fun _ hs => hs
  | ok _ =>
      exact .andThen (lasting.elapse held _) fun _ => lasting.install id name connector descriptor held

theorem registerConnector (id : FederationId) (name : String) (plan : ConnectorPlan) :
    Ensures (P held) (registerConnector id name plan) fun _ => P held :=
  .andThen (lasting.build held plan) fun _ => lasting.installSource held id name _ none

theorem registerSource (id : FederationId) (descriptor : SourceDescriptor) :
    Ensures (P held) (registerSource id descriptor) fun _ => P held := by
  unfold ContentEngine.registerSource
  refine .seq (.part (Q := fun _ => P held) fun _ hs => hs) fun f => ?_
  cases f.planFor descriptor with
  | error fault => exact .answer fun _ hs => hs
  | ok plan =>
      exact .andThen (lasting.build held plan) fun _ => lasting.installSource held id _ _ _

/-! ### Connections and graphs -/

theorem awaitBorrowing (id : FederationId) (attempts : Nat) (borrowing : Borrowing) :
    Ensures (P (borrowing.stakes ++ held)) (awaitBorrowing id attempts borrowing)
      fun r => P (stakesOf r ++ held) := by
  induction attempts generalizing borrowing with
  | zero =>
      cases borrowing with
      | done loan => exact .answer fun _ hs => hs
      | failed fault => exact .answer fun _ hs => hs
      | opening o millis => exact .answer fun _ hs => lasting.abandon hs
  | succ attempts ih =>
      cases borrowing with
      | done loan => exact .answer fun _ hs => hs
      | failed fault => exact .answer fun _ hs => hs
      | opening o millis =>
          unfold ContentEngine.awaitBorrowing
          refine .andThen (lasting.elapse (.opening o :: held) millis) fun _ => ?_
          exact .seq (lasting.resume id o held) fun next => ih next

theorem borrowConnection (id : FederationId) (name : String) :
    Ensures (P held) (borrowConnection id name) fun r => P (stakesOf r ++ held) :=
  .seq (lasting.request id name held) fun borrowing => lasting.awaitBorrowing held id 2 borrowing

theorem subgraph (g : Graph) (root : NodePath) (depth : Nat) :
    Ensures (P held) (g.subgraph root depth) fun _ => P held := by
  unfold Graph.subgraph
  refine .seq (lasting.borrowConnection held g.federation g.source) fun r => ?_
  cases r with
  | error fault => exact .answer fun _ hs => hs
  | ok loan =>
      refine .andThen (R := P held) (fun s hs => lasting.giveBack loan held s hs) fun result => ?_
      cases result <;> exact .answer fun _ hs => hs

theorem scanConfiguration (g : Graph) (root : NodePath) :
    Ensures (P held) (scanConfiguration g root) fun _ => P held := by
  unfold ContentEngine.scanConfiguration
  refine .andThen (lasting.subgraph held g _ 1) fun _ => ?_
  refine .andThen (lasting.subgraph held g _ 1) fun _ => ?_
  exact .andThen (lasting.subgraph held g _ 1) fun _ => .answer fun _ hs => hs

/-! ### Reconciliation -/

theorem reconcileOne (id : FederationId) (current : Table String (Option SourceDescriptor))
    (r : Reconciling) (d : SourceDescriptor) :
    Ensures (P held) (reconcileOne id current r d) fun _ => P held := by
  unfold ContentEngine.reconcileOne
  refine .seq (.part (Q := fun _ => P held) fun _ hs => hs) fun f => ?_
  split
  · exact .answer fun _ hs => hs
  split
  · exact .answer fun _ hs => hs
  dsimp only
  split
  · exact .answer fun _ hs => hs
  refine .andThen (lasting.registerSource held id d) fun result => ?_
  cases result <;> exact .answer fun _ hs => hs

theorem reconcileRemoval (id : FederationId) (r : Reconciling)
    (entry : String × Option SourceDescriptor) :
    Ensures (P held) (reconcileRemoval id r entry) fun _ => P held := by
  unfold ContentEngine.reconcileRemoval
  split
  · refine .andThen (lasting.remove id entry.1 held) fun removed => ?_
    cases removed <;> exact .answer fun _ hs => hs
  · exact .answer fun _ hs => hs

theorem applyDescriptors (id : FederationId) (descriptors : List SourceDescriptor) :
    Ensures (P held) (applyDescriptors id descriptors) fun _ => P held := by
  unfold ContentEngine.applyDescriptors
  refine .seq (.read (Q := fun _ => P held) fun _ hs => hs) fun s => ?_
  refine .andThen (.loop (fun r d _ => lasting.reconcileOne held id _ r d) _) fun r => ?_
  refine .andThen (.loop (fun r e _ => lasting.reconcileRemoval held id r e) _) fun r => ?_
  exact .answer fun _ hs => hs

end Tough

namespace Hardy

variable {P : List Stake → System → Prop} (lasting : Hardy P) (held : List Stake)
include lasting

/-! ### Reloading -/

theorem recordProblems (id : FederationId) (problems : Problems) :
    Ensures (P held) (withFederation id fun f d => ((), f.recordProblems problems, d))
      fun _ => P held :=
  .exchange fun s hs => lasting.slight (.of_depot ⟨.recordProblems s id problems, rfl, rfl⟩ rfl) hs

theorem reloadSources (id : FederationId) (root : NodePath) (workspace : Option String) :
    Ensures (P held) (reloadSources id root workspace) fun _ => P held := by
  unfold ContentEngine.reloadSources
  refine .seq (.part (Q := fun _ => P held) fun _ hs => hs) fun f => ?_
  split
  · exact .answer fun _ hs => hs
  refine .andThen (lasting.subgraph held _ _ 1) fun read => ?_
  have finish : ∀ problems : Problems, Ensures (P held) (do
      ContentEngine.writeLog (problems.map fun p => .tagged .warning f.engine p.text)
      withFederation id fun f d => ((), f.recordProblems problems, d)
      pure problems : InSystem Problems) fun _ => P held := fun problems =>
    .andThen (lasting.writeLog held _) fun _ =>
      .andThen (lasting.recordProblems held id problems) fun _ => .answer fun _ hs => hs
  cases read with
  | error fault => exact finish _
  | ok container =>
      exact .andThen (lasting.applyDescriptors held id _) fun _ => finish _

end Hardy

end ContentEngine
