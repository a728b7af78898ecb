import ContentEngine.Proofs.Bus.Sharing
import ContentEngine.Proofs.Lifecycle
import ContentEngine.Proofs.Program.Ensures
import ContentEngine.Proofs.Program.Parts

/-!
# The steps of a processing service

Starting a service and shutting it down take several steps each, and other calls may come between them.
A start that has got hold of the registration claims a number for its observer, then the observer is
placed on the bus.  A shutdown closes the service before it has the registration; then it takes the number
out, and at last the observer leaves the bus.  Each step concerns the service and its bus alone.

If nobody comes between, the steps of a start are what starts a service (`startSteps_run`), and those of a
shutdown are what shuts it down (`shutdownSteps_run`).
-/

namespace ContentEngine

/-! ## Steps -/

namespace Service

/-- A start that has got hold of the registration.  If it is to go on, its observer is given a number. -/
def claim (v : Service) (b : Bus) : Except Fault (Option ObserverId) × Service × Bus × List LogLine :=
  match v.beginStart with
  | (.error fault, _) => (.error fault, v, b, [])
  | (.ok false, v) => (.ok none, v, b, [])
  | (.ok true, v) => (.ok (some b.nextId), v, b.claim, [.starting "processing service" v.engine])

/-- The observer goes onto the bus, and the start ends. -/
def place (self : ServiceId) (number : ObserverId) (v : Service) (b : Bus) :
    Unit × Service × Bus × List LogLine :=
  ((), { v with registration := some number }.finishStart, b.place number (.processing self), [])

/-- A shutdown begins, without the registration. -/
def close (v : Service) (b : Bus) : ShutdownStep × Service × Bus × List LogLine :=
  (v.beginShutdown.1, v.beginShutdown.2, b, [])

/-- A shutdown that has got hold of the registration.  If there is an observer its number is taken out,
else the shutdown ends. -/
def takeOut (v : Service) (b : Bus) : Option ObserverId × Service × Bus × List LogLine :=
  match v.registration with
  | some number =>
    (some number, { v with registration := none }, b, [.stopping "processing service" v.engine])
  | none => (none, { v with lifecycle := v.lifecycle.markTerminated }, b, [])

/-- The observer leaves the bus, and the shutdown ends. -/
def leave (number : ObserverId) (v : Service) (b : Bus) : Unit × Service × Bus × List LogLine :=
  ((), { v with lifecycle := v.lifecycle.markTerminated }, (b.unregister number).2, [])

end Service

/-- The system with a service and its bus changed, and with more lines in the log. -/
def System.amend (s : System) (id : ServiceId) (v : Service) (b : Bus) (lines : List LogLine) : System :=
  ((s.setBus (s.service id).bus b).setService id v).addLog lines

/-- Whatever is done with a service and its bus. -/
def withService {α : Type} (id : ServiceId) (f : Service → Bus → α × Service × Bus × List LogLine) :
    InSystem α :=
  modifyGet fun s =>
    let (answer, v, b, lines) := f (s.service id) (s.bus (s.service id).bus)
    (answer, s.amend id v b lines)

/-- A start that nobody interrupts. -/
def startSteps (id : ServiceId) : InSystem (Except Fault Unit) := do
  match ← withService id Service.claim with
  | .error fault => pure (.error fault)
  | .ok none => pure (.ok ())
  | .ok (some number) =>
    withService id (Service.place id number)
    pure (.ok ())

/-- A shutdown that nobody interrupts. -/
def shutdownSteps (id : ServiceId) : InSystem Unit := do
  match ← withService id Service.close with
  | .alreadyShuttingDown => pure ()
  | .drain | .terminated =>
    match ← withService id Service.takeOut with
    | none => pure ()
    | some number => withService id (Service.leave number)

/-! ## One step after another -/

section steps

variable {α : Type} {id : ServiceId} {s : System} {v : Service} {b : Bus} {lines : List LogLine}

theorem System.service_amend (hmade : id < s.services.size) : (s.amend id v b lines).service id = v :=
  System.service_setService_self (s.setBus _ b) hmade v

theorem System.bus_amend (hbus : (s.service id).bus < s.buses.size) :
    (s.amend id v b lines).bus (s.service id).bus = b :=
  s.bus_setBus_self hbus b

theorem withService_run (f : Service → Bus → α × Service × Bus × List LogLine) (s : System) :
    (withService id f).run s = ((f (s.service id) (s.bus (s.service id).bus)).1,
      s.amend id (f (s.service id) (s.bus (s.service id).bus)).2.1
        (f (s.service id) (s.bus (s.service id).bus)).2.2.1
        (f (s.service id) (s.bus (s.service id).bus)).2.2.2) :=
  rfl

/-- The next step meets the service and the bus that the last one left. -/
theorem withService_amended (hmade : id < s.services.size) (hbus : (s.service id).bus < s.buses.size)
    (hv : v.bus = (s.service id).bus) (f : Service → Bus → α × Service × Bus × List LogLine) :
    (withService id f).run (s.amend id v b lines) =
      ((f v b).1, s.amend id (f v b).2.1 (f v b).2.2.1 (lines ++ (f v b).2.2.2)) := by
  rw [withService_run, System.service_amend hmade, hv, System.bus_amend hbus]
  -- what the first step left is overwritten, but for the log
  rw [System.amend, System.service_amend hmade, hv]
  simp [System.amend, System.setBus, System.setService, System.addLog]

/-! ### A start -/

theorem Service.beginStart_of_notStarted (h : v.lifecycle.state = .notStarted) :
    v.beginStart = (.ok true, { v with lifecycle := { v.lifecycle with state := .starting } }) := by
  rw [beginStart, Lifecycle.beginStart_of_notStarted h]

/-- A service that was started or shut down already is not changed by a start. -/
theorem Service.beginStart_of_ne (h : v.lifecycle.state ≠ .notStarted) :
    v.beginStart = (v.lifecycle.beginStart.2, v) := by
  have hpair : v.lifecycle.beginStart = (v.lifecycle, v.lifecycle.beginStart.2) :=
    Prod.ext (Lifecycle.beginStart_of_ne h).1 rfl
  unfold beginStart
  rw [hpair]

theorem Service.claim_of_notStarted (h : v.lifecycle.state = .notStarted) (b : Bus) :
    v.claim b = (.ok (some b.nextId),
      { v with lifecycle := { v.lifecycle with state := .starting } }, b.claim,
      [.starting "processing service" v.engine]) := by
  rw [claim, beginStart_of_notStarted h]

theorem Service.claim_of_ne (h : v.lifecycle.state ≠ .notStarted) (b : Bus) :
    ∃ answer : Except Fault Bool, answer ≠ .ok true ∧ v.beginStart = (answer, v) ∧
      v.claim b = (answer.map fun _ => none, v, b, []) := by
  have hbegun := beginStart_of_ne h
  have hnot := (Lifecycle.beginStart_of_ne h).2
  refine ⟨v.lifecycle.beginStart.2, hnot, hbegun, ?_⟩
  rw [claim, hbegun]
  match hanswer : v.lifecycle.beginStart.2 with
  | .error fault => rfl
  | .ok false => rfl
  | .ok true => exact absurd hanswer hnot

theorem Service.claim_bus (v : Service) (b : Bus) : (v.claim b).2.1.bus = v.bus := by
  by_cases hstate : v.lifecycle.state = .notStarted
  · rw [claim_of_notStarted hstate]
  · obtain ⟨answer, -, -, hclaim⟩ := claim_of_ne hstate b
    rw [hclaim]

theorem startService_run (s : System) :
    (startService id).run s = match (s.service id).beginStart with
      | (.error fault, _) => (.error fault, s)
      | (.ok false, v) => (.ok (), s.setService id v)
      | (.ok true, v) => (.ok (), ((s.setBus v.bus (v.attach id (s.bus v.bus)).2).setService id
          (v.attach id (s.bus v.bus)).1.finishStart).addLog
            [.starting "processing service" v.engine]) :=
  rfl

/-- The steps of a start are what starts a service. -/
theorem startSteps_run (hmade : id < s.services.size) (hbus : (s.service id).bus < s.buses.size) :
    (startSteps id).run s = (startService id).run s := by
  rw [startSteps, run_bind, withService_run, startService_run]
  by_cases hstate : (s.service id).lifecycle.state = .notStarted
  · rw [Service.claim_of_notStarted hstate, Service.beginStart_of_notStarted hstate]
    dsimp only
    rw [run_bind, withService_amended hmade hbus (by rfl)]
    rfl
  · obtain ⟨answer, hnot, hbegun, hclaim⟩ :=
      Service.claim_of_ne hstate (s.bus (s.service id).bus)
    have hsame : s.amend id (s.service id) (s.bus (s.service id).bus) [] = s := by
      rw [System.amend, System.setBus_self, System.setService_self]
      rfl
    rw [hclaim, hbegun]
    dsimp only
    rw [hsame]
    match answer with
    | .error fault => rfl
    | .ok false => exact congrArg (Prod.mk _) (s.setService_self id).symm
    | .ok true => exact absurd rfl hnot

/-! ### A shutdown -/

theorem Service.takeOut_bus (v : Service) (b : Bus) : (v.takeOut b).2.1.bus = v.bus := by
  unfold takeOut
  split <;> rfl

theorem Service.finishShutdown_bus (v : Service) (b : Bus) : (v.finishShutdown b).1.bus = v.bus := by
  unfold finishShutdown
  split <;> rfl

/-- Taking the number out, and then leaving the bus if there was one, is what finishes a shutdown. -/
theorem finishSteps_run (hmade : id < s.services.size) (hbus : (s.service id).bus < s.buses.size)
    (hv : v.bus = (s.service id).bus) :
    (do
      match ← withService id Service.takeOut with
      | none => pure ()
      | some number => withService id (Service.leave number) : InSystem Unit).run (s.amend id v b []) =
      ((), s.amend id (v.finishShutdown b).1 (v.finishShutdown b).2.1 (v.finishShutdown b).2.2) := by
  rw [run_bind, withService_amended hmade hbus hv]
  unfold Service.takeOut Service.finishShutdown
  cases hregistration : v.registration with
  | none => rfl
  | some number =>
      dsimp only
      rw [withService_amended hmade hbus (by exact hv)]
      rfl

/-- The steps of a shutdown are what shuts a service down. -/
theorem shutdownSteps_run (hmade : id < s.services.size)
    (hbus : (s.service id).bus < s.buses.size) :
    (shutdownSteps id).run s = (shutdownService id).run s := by
  have hv : (s.service id).beginShutdown.2.bus = (s.service id).bus := rfl
  rw [shutdownSteps, run_bind, withService_run, Service.close, shutdownService, modify_run]
  revert hv
  obtain ⟨step, v⟩ := (s.service id).beginShutdown
  intro hv
  dsimp only at hv ⊢
  cases step with
  | alreadyShuttingDown =>
      refine congrArg (Prod.mk _) ?_
      rw [System.amend, System.setBus_self]
      rfl
  | drain | terminated =>
      rw [finishSteps_run hmade hbus hv]
      dsimp only
      rw [Service.finishShutdown_bus, hv]
      rfl

end steps

end ContentEngine
