import ContentEngine.Dispatch.Processor
import ContentEngine.Lifecycle
import ContentEngine.Log
import ContentEngine.Source.Pool

/-!
# Dispatchers

A dispatcher runs the jobs that are submitted to it, a limited number at a time. A job that was
accepted asks for a permit; if there is none left it stands in line, and a job that ends hands its
permit to the first in line. The outcome of a job is recorded with the dispatcher: its problems
are kept, as many of the newest as fit, and it counts as completed or failed.

A shutdown closes the intake at once. The dispatcher terminates when all jobs that were accepted
before have ended.
-/

namespace ContentEngine

/-- The number of a federation. -/
abbrev FederationId := Nat

/-- The place of a job among those that its dispatcher accepted. -/
abbrev JobIndex := Nat

/-- A connection that is being opened for a borrower. -/
structure Opening where
  source : String
  pool : PoolId
  /-- Whether there is no further attempt if this one fails because the pool was closed. -/
  last : Bool
  deriving DecidableEq, Repr

/-- What a running job has left to do, and what it holds. -/
structure Activity where
  rest : List Action
  ending : Ending
  loan : Option Loan
  opening : Option Opening

/-- How far a job has come. -/
inductive Stage where
  /-- Accepted. -/
  | accepted
  /-- In line for a permit. -/
  | queued
  /-- Given a permit, but not running yet. -/
  | permitted
  | running (activity : Activity)
  | finished

namespace Stage

/-- Whether the job has ended. -/
def isFinished : Stage → Bool
  | finished => true
  | _ => false

/-- Whether the job's processor is running. -/
def isRunning : Stage → Bool
  | running _ => true
  | _ => false

end Stage

/-- A job and how far it has come. -/
structure DispatchedJob where
  job : Job Processor
  stage : Stage

/-- The counts of a dispatcher. -/
structure DispatcherStats where
  submitted : Nat
  completed : Nat
  failed : Nat
  rejected : Nat
  inFlight : Nat
  deriving DecidableEq, Repr

namespace DispatcherStats

/-- The record text of the counts. -/
def recordText (s : DispatcherStats) : String :=
  Text.record "DispatcherStats" [
    ("submitted", toString s.submitted),
    ("completed", toString s.completed),
    ("failed", toString s.failed),
    ("rejected", toString s.rejected),
    ("in_flight", toString s.inFlight)]

/-- The counts as a value. -/
def toValue (s : DispatcherStats) : Value :=
  Value.ofFields [
    ("submitted", Value.ofNat s.submitted),
    ("completed", Value.ofNat s.completed),
    ("failed", Value.ofNat s.failed),
    ("rejected", Value.ofNat s.rejected),
    ("in_flight", Value.ofNat s.inFlight)]

end DispatcherStats

/-- Runs jobs, a limited number at a time. -/
structure Dispatcher where
  engine : String
  federation : FederationId
  poolSize : Nat
  lifecycle : Lifecycle
  /-- Whether no shutdown has begun. -/
  accepting : Bool
  /-- The jobs in the order in which they were submitted. -/
  jobs : Array DispatchedJob
  /-- The permits that nobody holds. -/
  freePermits : Nat
  /-- The jobs that wait for a permit, the first to get one in front. -/
  line : List JobIndex
  submitted : Nat
  completed : Nat
  failed : Nat
  rejected : Nat
  problems : Problems
  problemCapacity : Nat

namespace Dispatcher

/-- How many permits a dispatcher can have. -/
def permitLimit : Nat := 2305843009213693951

/-- A dispatcher that is not started; none if it would have too many permits. -/
def new? (engine : String) (federation : FederationId) (poolSize problemCapacity : Nat) :
    Option Dispatcher :=
  if permitLimit < poolSize then none
  else
    some {
      engine := engine
      federation := federation
      poolSize := max poolSize 1
      lifecycle := .new "dispatcher" engine
      accepting := true
      jobs := #[]
      freePermits := max poolSize 1
      line := []
      submitted := 0
      completed := 0
      failed := 0
      rejected := 0
      problems := []
      problemCapacity := max problemCapacity 1 }

instance : Inhabited Dispatcher :=
  ⟨⟨"", 0, 1, .new "dispatcher" "", false, #[], 1, [], 0, 0, 0, 0, [], 1⟩⟩

/-- How many jobs have not ended. -/
def inFlight (d : Dispatcher) : Nat :=
  d.jobs.toList.countP fun j => !j.stage.isFinished

/-- How many processors are running. -/
def runningCount (d : Dispatcher) : Nat :=
  d.jobs.toList.countP fun j => j.stage.isRunning

/-- The counts. -/
def stats (d : Dispatcher) : DispatcherStats :=
  ⟨d.submitted, d.completed, d.failed, d.rejected, d.inFlight⟩

/-- The record text of a dispatcher. -/
def recordText (d : Dispatcher) : String :=
  Text.record "JobDispatcher" [
    ("engine_id", Text.inQuotes d.engine),
    ("pool_size", toString d.poolSize),
    ("state", d.lifecycle.state.name),
    ("stats", d.stats.recordText)]

/-- Starts the dispatcher. -/
def start (d : Dispatcher) : Except Fault Dispatcher × List LogLine :=
  match d.lifecycle.beginStart with
  | (_, .error fault) => (.error fault, [])
  | (lifecycle, .ok false) => (.ok { d with lifecycle := lifecycle }, [])
  | (lifecycle, .ok true) =>
    (.ok { d with lifecycle := lifecycle.markRunning }, [.starting "dispatcher" d.engine])

/-- Accepts a job if the dispatcher is running and no shutdown has begun; its place is the number
of jobs before it. -/
def submit (d : Dispatcher) (job : Job Processor) : Except Fault JobIndex × Dispatcher :=
  if d.accepting && d.lifecycle.isRunning then
    (.ok d.jobs.size,
      { d with submitted := d.submitted + 1, jobs := d.jobs.push ⟨job, .accepted⟩ })
  else
    (.error (.jobRejected job.ruleName job.assignment.input.text),
      { d with rejected := d.rejected + 1 })

/-- The dispatcher with the stage of a job changed. -/
def setStage (d : Dispatcher) (index : JobIndex) (stage : Stage) : Dispatcher :=
  { d with jobs := d.jobs.modify index ({ · with stage := stage }) }

/-- Gives a permit to a job that asks for one, or puts it in line. -/
def requestPermit (d : Dispatcher) (index : JobIndex) : Dispatcher :=
  match d.freePermits with
  | 0 => { d.setStage index .queued with line := d.line ++ [index] }
  | free + 1 => { d.setStage index .permitted with freePermits := free }

/-- Takes a permit back: the first job in line gets it, if there is one. -/
def returnPermit (d : Dispatcher) : Option JobIndex × Dispatcher :=
  match d.line with
  | [] => (none, { d with freePermits := d.freePermits + 1 })
  | next :: line => (some next, { d.setStage next .permitted with line := line })

/-- The problem of a job that failed. -/
def failureProblem (job : Job Processor) (cause : String) : Problem :=
  ((Problem.plain .error "Processor for rule '\x7b\x7d' failed on \x7b\x7d"
    [job.ruleName, job.assignment.input.text]).causedBy cause)

/-- The problems of an outcome, whether it is a failure, and what is logged about it. -/
def judge (engine : String) (job : Job Processor) : Ending → Problems × Bool × List LogLine
  | .reported problems =>
    if Problems.hasErrors problems then
      (problems, true, [.errorIn "dispatcher" engine (job.text ++ " reported errors")])
    else (problems, false, [])
  | .failed failure =>
    ([failureProblem job failure.text], true,
      [.errorIn "dispatcher" engine (job.text ++ " failed: " ++ failure.text)])
  | .panicked payload =>
    let cause := "panicked: " ++ payload.message
    ([failureProblem job cause], true,
      [.errorIn "dispatcher" engine (job.text ++ " failed: " ++ cause)])

/-- The problem, about the job if it does not say itself what it is about. -/
def tagged (job : Job Processor) (p : Problem) : Problem :=
  { p with resource := some (p.resource.getD job.resource) }

/-- Records the outcome of a job. -/
def record (d : Dispatcher) (job : Job Processor) (ending : Ending) : Dispatcher × List LogLine :=
  let (problems, failed, lines) := judge d.engine job ending
  ({ d with
      problems := Problems.pushAllBounded d.problems (problems.map (tagged job)) d.problemCapacity
      completed := if failed then d.completed else d.completed + 1
      failed := if failed then d.failed + 1 else d.failed },
    lines)

/-- Begins a shutdown: closes the intake. -/
def beginShutdown (d : Dispatcher) : ShutdownStep × Dispatcher × List LogLine :=
  let (lifecycle, step) := d.lifecycle.beginShutdown
  let d := { d with accepting := false, lifecycle := lifecycle }
  (step, d, if step = .drain then [.stopping "dispatcher" d.engine] else [])

/-- Whether a shutdown can end: all accepted jobs have. -/
def isDrained (d : Dispatcher) : Bool :=
  d.inFlight == 0

end Dispatcher

end ContentEngine
