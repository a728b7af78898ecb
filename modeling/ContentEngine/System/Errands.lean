import ContentEngine.Duration
import ContentEngine.System.State

/-!
# Errands

Each errand goes on until it ends or has to wait. Errands that can go on do so in turn. When none
can, the clock moves to the earliest moment for which one waits. Whoever waits for time to pass
lets the errands go on in the meantime; at its own moment it comes first, and errands that waited for
the same moment stand in front of whatever it leaves to be done.

Every step lowers the potential of the system: the actions that jobs have left, and what is needed
to wake, drain and close. So a run that has as many steps as the potential says comes to its end.
-/

namespace ContentEngine

/-! ## Actions of processors -/

/-- Why a job waits. -/
inductive Pause where
  | opening (opening : Opening) (millis : Nat)
  | gate (name : String)
  | sleep (millis : Nat)

/-- How far the actions of a job have come. -/
inductive Advance where
  | ended (ending : Ending) (loan : Option Loan)
  | paused (rest : List Action) (loan : Option Loan) (pause : Pause)

/-- Notes an entry. -/
def addNote (entry : Value) : InSystem Unit :=
  modify fun s => { s with notes := s.notes.push entry }

/-- Gives a borrowed connection back, if there is one. -/
def giveBack : Option Loan → InSystem Unit
  | some loan => withDepot fun d => ((), d.release loan)
  | none => pure ()

/-- Takes a permit of a gate, if there is one. -/
def takePermit (name : String) : InSystem Bool :=
  modifyGet fun s =>
    let g := s.gate name
    match g.permits with
    | 0 => (false, s)
    | permits + 1 => (true, s.setGate name { g with permits := permits })

/-- The failure of a job that uses a connection without having borrowed one. -/
def nothingBorrowed : Failure :=
  .of "no connection was borrowed"

/-- Reads the properties of a node through a borrowed connection. -/
def readNode (loan : Option Loan) (path : NodePath) :
    InSystem (Except Failure (Option Properties)) := do
  match loan with
  | none => pure (.error nothingBorrowed)
  | some loan =>
    let d ← fromSystem System.depot
    match d.read loan.connection none path 0 with
    | .error failure => pure (.error failure)
    | .ok graph => pure (.ok ((graph.bind Subgraph.rootNode?).map Node.properties))

/-- Goes on with actions until they end or one has to wait. -/
def runActions (federation : FederationId) (ending : Ending) :
    List Action → Option Loan → InSystem Advance
  | [], loan => pure (.ended ending loan)
  | .note entry :: rest, loan => do
    addNote entry
    runActions federation ending rest loan
  | .expect source :: rest, loan => do
    let f ← fromSystem (System.federation · federation)
    if f.contains source then runActions federation ending rest loan
    else pure (.ended (.failed (Fault.unknownSource source).toFailure) loan)
  | .borrow source :: rest, loan => do
    giveBack loan
    let result ← withFederation federation fun f d =>
      let (result, d) := f.borrow d source
      (result, f, d)
    match result with
    | .done loan => runActions federation ending rest (some loan)
    | .failed fault => pure (.ended (.failed fault.toFailure) none)
    | .opening opening millis => pure (.paused rest none (.opening opening millis))
  | .pass gate :: rest, loan => do
    if ← takePermit gate then runActions federation ending rest loan
    else pure (.paused rest loan (.gate gate))
  | .sleep 0 :: rest, loan => runActions federation ending rest loan
  | .sleep millis :: rest, loan => pure (.paused rest loan (.sleep millis))
  | .ping :: rest, loan => do
    match loan with
    | none => pure (.ended (.failed nothingBorrowed) none)
    | some held =>
      match ← withDepot fun d => d.ping held.connection with
      | .ok () => runActions federation ending rest loan
      | .error failure => pure (.ended (.failed failure) loan)
  | .read path entry :: rest, loan => do
    match ← readNode loan path with
    | .ok properties =>
      addNote (entry properties)
      runActions federation ending rest loan
    | .error failure => pure (.ended (.failed failure) loan)
  | .readOf source path entry :: rest, loan => do
    match ← readNode loan path with
    | .ok properties =>
      addNote (entry properties)
      runActions federation ending rest loan
    | .error failure => pure (.ended (.failed (Fault.connection source failure).toFailure) loan)
  | .giveBack :: rest, loan => do
    giveBack loan
    runActions federation ending rest none

/-! ## Jobs -/

/-- Ends a job: records its outcome, hands its permit on, and wakes whoever waits for the last job
to end. -/
def endJob (id : DispatcherId) (index : JobIndex) (job : Job Processor) (ending : Ending) :
    InSystem Unit := do
  let (lines, next, drained) ← withDispatcher id fun d =>
    let (d, lines) := d.record job ending
    let (next, d) := (d.setStage index .finished).returnPermit
    ((lines, next, d.lifecycle.state == .stopping && d.isDrained), d)
  writeLog lines
  modify (·.enqueue (next.toList.map (.job id)))
  if drained then modify (·.enqueue [.drain id])

/-- Lets a job wait, or ends it. -/
def settleJob (id : DispatcherId) (index : JobIndex) (job : Job Processor) (ending : Ending) :
    Advance → InSystem Unit
  | .ended outcome loan => do
    giveBack loan
    endJob id index job outcome
  | .paused rest loan pause => do
    let waitAs (opening : Option Opening) : InSystem Unit :=
      withDispatcher id fun d => ((), d.setStage index (.running ⟨rest, ending, loan, opening⟩))
    match pause with
    | .opening opening millis =>
      waitAs (some opening)
      modify (·.after millis (.job id index))
    | .sleep millis =>
      waitAs none
      modify (·.after millis (.job id index))
    | .gate name =>
      waitAs none
      modify fun s =>
        let g := s.gate name
        s.setGate name { g with line := g.line ++ [(id, index)] }

/-- Invokes the processor of a job. -/
def invoke (id : DispatcherId) (index : JobIndex) (job : Job Processor) : InSystem Unit := do
  let d ← fromSystem (System.dispatcher · id)
  let script := job.work.processor job.assignment
  let advance ← runActions d.federation script.ending script.actions none
  settleJob id index job script.ending advance

/-- Goes on with a running job. -/
def resume (id : DispatcherId) (index : JobIndex) (job : Job Processor) (a : Activity) :
    InSystem Unit := do
  let d ← fromSystem (System.dispatcher · id)
  match a.opening with
  | none =>
    let advance ← runActions d.federation a.ending a.rest a.loan
    settleJob id index job a.ending advance
  | some opening =>
    let result ← withFederation d.federation fun f depot =>
      let (result, depot) := f.resumeBorrow depot opening
      (result, f, depot)
    match result with
    | .done loan =>
      let advance ← runActions d.federation a.ending a.rest (some loan)
      settleJob id index job a.ending advance
    | .failed fault => settleJob id index job a.ending (.ended (.failed fault.toFailure) none)
    | .opening opening millis =>
      settleJob id index job a.ending (.paused a.rest none (.opening opening millis))

/-- Goes on with a job. A job that was accepted asks for a permit first. -/
def runJob (id : DispatcherId) (index : JobIndex) : InSystem Unit := do
  let d ← fromSystem (System.dispatcher · id)
  match d.jobs[index]? with
  | none => pure ()
  | some ⟨job, .accepted⟩ =>
    withDispatcher id fun d => ((), d.requestPermit index)
    let d ← fromSystem (System.dispatcher · id)
    match d.jobs[index]? with
    | some ⟨_, .permitted⟩ => invoke id index job
    | _ => pure ()
  | some ⟨job, .permitted⟩ => invoke id index job
  | some ⟨job, .running activity⟩ => resume id index job activity
  | some ⟨_, .queued⟩ => pure ()
  | some ⟨_, .finished⟩ => pure ()

/-! ## Draining and closing -/

/-- The engines that wait for a dispatcher to terminate. -/
def waitingEngines (s : System) (id : DispatcherId) : List EngineId :=
  (List.range s.engines.size).filter fun e =>
    let engine := s.engine e
    engine.dispatcher == id &&
      match engine.closing with
      | .waiting _ => true
      | _ => false

/-- Terminates a dispatcher if its jobs have ended, and wakes the engines that wait for that. -/
def runDrain (id : DispatcherId) : InSystem Unit :=
  modify fun s =>
    let d := s.dispatcher id
    if d.lifecycle.state = .stopping ∧ d.isDrained then
      let s := s.setDispatcher id { d with lifecycle := d.lifecycle.markTerminated }
      let woken := (waitingEngines s id).map Errand.close
      { s with
          timers := s.timers.filter fun timer => !woken.contains timer.errand
          ready := s.ready ++ woken }
    else s

/-- Shuts a federation down. -/
def shutdownFederation (id : FederationId) : InSystem Unit := do
  let lines ← withFederation id fun f d =>
    let (f, d, lines) := f.shutdown d
    (lines, f, d)
  writeLog lines

/-- Closes the sources of an engine and terminates it. -/
def closeEngine (id : EngineId) : InSystem Unit := do
  let e ← fromSystem (System.engine · id)
  shutdownFederation e.federation
  modify fun s =>
    let e := s.engine id
    s.setEngine id { e with lifecycle := e.lifecycle.markTerminated, closing := .idle }

/-- The warning about jobs that are still running when the sources are closed. -/
def overdueWarning (e : Engine) (stats : DispatcherStats) : LogLine :=
  .warningIn "engine" e.settings.id
    ("jobs still running after " ++ durationText e.settings.dispatcher.drainTimeoutMillis ++
      "; closing sources anyway (" ++ stats.recordText ++ ")")

/-- Closes the sources of an engine if its dispatcher has terminated or the time is up, and else
waits for that. -/
def runClose (id : EngineId) : InSystem Unit := do
  let s ← get
  let e := s.engine id
  let d := s.dispatcher e.dispatcher
  let timeout := e.settings.dispatcher.drainTimeoutMillis
  if e.closing = .idle then pure ()
  else if d.lifecycle.state = .terminated then closeEngine id
  else if e.closing = .due ∧ d.lifecycle.state = .stopping ∧ timeout ≠ 0 then
    set ((s.setEngine id { e with closing := .waiting (s.clock + timeout) }).after timeout
      (.close id))
  else
    writeLog [overdueWarning e d.stats]
    closeEngine id

/-! ## Turns -/

/-- Goes on with an errand. -/
def runErrand : Errand → InSystem Unit
  | .job dispatcher index => runJob dispatcher index
  | .drain dispatcher => runDrain dispatcher
  | .close engine => runClose engine

/-- The potential of a job. -/
def DispatchedJob.potential (j : DispatchedJob) : Nat :=
  match j.stage with
  | .finished => 0
  | .running a =>
    4 + 9 * a.rest.length +
      (match a.opening with
        | some opening => if opening.last then 3 else 6
        | none => 0)
  | .accepted | .queued | .permitted =>
    5 + 9 * (j.job.work.processor j.job.assignment).actions.length

/-- What engines may still need to close. -/
def Engine.potential (e : Engine) : Nat :=
  if e.closing = .due then 4 else 0

namespace System

/-- How many steps the errands of a system can take at most. -/
def potential (s : System) : Nat :=
  let jobs := s.dispatchers.toList.flatMap fun d => d.jobs.toList
  jobs.foldl (fun n job => n + job.potential) 0 +
    s.engines.toList.foldl (fun n engine => n + engine.potential) 0 +
    s.ready.length + 2 * s.timers.length

/-- The earliest moment for which an errand waits. -/
def nextMoment? (s : System) : Option Nat :=
  (s.timers.map Timer.deadline).min?

/-- The system where the clock shows at least `moment` and the errands that waited for that moment
can go on. -/
def wake (s : System) (moment : Nat) : System :=
  let due := s.timers.filter fun timer => timer.deadline == moment
  { s with
      clock := max s.clock moment
      timers := s.timers.filter fun timer => timer.deadline != moment
      ready := s.ready ++ due.map Timer.errand }

end System

/-- One turn: an errand goes on, or the clock moves to a moment before `deadline`. `false` if
neither can happen. -/
def turn (deadline : Nat) : InSystem Bool := do
  let s ← get
  match s.ready with
  | errand :: rest =>
    set { s with ready := rest }
    runErrand errand
    pure true
  | [] =>
    match s.nextMoment? with
    | none => pure false
    | some moment =>
      if moment ≤ s.clock ∨ moment < deadline then
        set (s.wake moment)
        pure true
      else pure false

/-- Takes turns, as many as `fuel` allows, until none is left or `stop` holds while no errand can
go on. -/
def takeTurns (deadline : Nat) (stop : System → Bool) : Nat → InSystem Unit
  | 0 => pure ()
  | fuel + 1 => do
    let s ← get
    if s.ready.isEmpty && stop s then pure ()
    else if ← turn deadline then takeTurns deadline stop fuel
    else pure ()

/-- Lets all errands go on that can without time passing. -/
def settle : InSystem Unit := do
  let s ← get
  takeTurns s.clock (fun _ => false) s.potential

/-- Lets the errands go on that waited for the moment that the clock shows, if no others can. -/
def wakeDue : InSystem Unit := do
  let s ← get
  if s.ready.isEmpty then
    let _ ← turn s.clock

/-- Waits until a condition holds, and not longer than some time. Tells whether the condition
holds. -/
def waitFor (millis : Nat) (stop : System → Bool) : InSystem Bool := do
  let s ← get
  if stop s then pure true
  else if millis = 0 then pure false
  else
    takeTurns (s.clock + millis) stop s.potential
    let s' ← get
    if stop s' then pure true
    else
      set { s' with clock := max s'.clock (s.clock + millis) }
      wakeDue
      pure false

/-- Lets time pass. -/
def elapse (millis : Nat) : InSystem Unit :=
  (fun _ => ()) <$> waitFor millis fun _ => false

end ContentEngine
