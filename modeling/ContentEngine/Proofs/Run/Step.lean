import ContentEngine.Proofs.Program.Announcing
import ContentEngine.Proofs.Source.Dealing
import ContentEngine.System.Engine

/-!
# Runs

A run is a sequence of steps.  A step is a call that starts or shuts a component down, submits a job
or opens a gate; a turn of the background work; time that passes; or a *quiet* change, which touches
stores, sources, connections, buses and records but none of the things that decide how jobs and
engines go on.  Reading, changing and registering sources consist of quiet changes and turns, so
whatever happens in a system is a run (`lasting_run`).

The steps of a run tell which jobs were accepted or rejected and which processors were invoked.
-/

namespace ContentEngine

/-! ## What happens to jobs -/

/-- What happens to a job, which is known by its identifier. -/
inductive JobEvent where
  | accepted (dispatcher : DispatcherId) (job : JobId)
  | rejected (dispatcher : DispatcherId) (job : JobId)
  /-- The job's processor is invoked. -/
  | invoked (dispatcher : DispatcherId) (job : JobId)
  deriving DecidableEq, Repr

/-- The job whose processor is invoked when the job at an index goes on: it has a permit, or asks for
one and there is one left. -/
def Dispatcher.invokes? (d : Dispatcher) (index : JobIndex) : Option (Job Processor) :=
  match d.jobs[index]? with
  | some ⟨job, .permitted⟩ => some job
  | some ⟨job, .accepted⟩ => if d.freePermits = 0 then none else some job
  | _ => none

namespace System

/-- The invocation that the next turn begins with, if it does. -/
def invocations (s : System) : List JobEvent :=
  match s.ready with
  | .job id index :: _ => (((s.dispatcher id).invokes? index).map fun job => .invoked id job.id).toList
  | _ => []

/-- What becomes of a job that is submitted next. -/
def submission (s : System) (id : DispatcherId) : List JobEvent :=
  if (s.dispatcher id).accepting && (s.dispatcher id).lifecycle.isRunning then
    [.accepted id s.nextJob]
  else [.rejected id s.nextJob]

end System

/-! ## Steps -/

/-- The second system differs from the first in nothing that decides how jobs and engines go on. -/
structure Quiet (s s' : System) : Prop where
  clock : s'.clock = s.clock
  federations : s.federations.size ≤ s'.federations.size
  states : ∀ id, (s'.federation id).state = (s.federation id).state
  dispatchers : s'.dispatchers = s.dispatchers
  engines : s'.engines = s.engines
  lines : ∀ name, (s'.gate name).line = (s.gate name).line
  ready : s'.ready = s.ready
  timers : s'.timers = s.timers
  nextJob : s'.nextJob = s.nextJob

/-- An engine as it is made: on parts that exist and belong together, with a federation of its own. -/
structure Fresh (s : System) (e : Engine) : Prop where
  lifecycle : e.lifecycle.state = .notStarted
  closing : e.closing = .idle
  dispatcher : e.dispatcher < s.dispatchers.size
  serves : (s.dispatcher e.dispatcher).federation = e.federation
  federation : e.federation < s.federations.size
  alone : ∀ id < s.engines.size, (s.engine id).federation ≠ e.federation

/-- One step, and what happens to jobs in it.  Federations are shut down by their engines, and
directly as far as `direct` allows. -/
inductive Step (direct : FederationId → Prop) : System → List JobEvent → System → Prop
  | quiet {s s'} : Quiet s s' → Step direct s [] s'
  | turn (deadline : Nat) (s) : Step direct s s.invocations ((turn deadline).run s).2
  | pass (moment : Nat) (s) : Step direct s [] { s with clock := max s.clock moment }
  | submit (id work s) : Step direct s (s.submission id) ((submitWork id work).run s).2
  | openGate (name permits s) : Step direct s [] ((openGate name permits).run s).2
  | startFederation (id s) : Step direct s [] ((startFederation id).run s).2
  | shutdownFederation (id s) : direct id → Step direct s [] ((shutdownFederation id).run s).2
  | startDispatcher (id s) : Step direct s [] ((startDispatcher id).run s).2
  | shutdownDispatcher (id s) : Step direct s [] ((shutdownDispatcher id).run s).2
  | startEngine {id s} : id < s.engines.size → Step direct s [] ((startEngine id).run s).2
  | shutdownEngine {id s} : id < s.engines.size → Step direct s [] ((shutdownEngine id).run s).2
  | addDispatcher {engine federation poolSize capacity d} (s) :
      Dispatcher.new? engine federation poolSize capacity = some d →
        Step direct s [] ((addDispatcher d).run s).2
  | addEngine {s e} : Fresh s e → Step direct s [] { s with engines := s.engines.push e }

/-- The systems that are reached from a first one, and what happened to jobs on the way. -/
inductive Run (direct : FederationId → Prop) (s₀ : System) : List JobEvent → System → Prop
  | start : Run direct s₀ [] s₀
  | step {history s events s'} :
      Run direct s₀ history s → Step direct s events s' → Run direct s₀ (history ++ events) s'

/-- The systems that are reached from the empty one. -/
def Reachable (direct : FederationId → Prop) (s : System) : Prop :=
  ∃ history, Run direct .empty history s

namespace Run

variable {direct : FederationId → Prop} {s₀ s s' : System} {history events : List JobEvent}

theorem append {more : List JobEvent} (hrun : Run direct s₀ history s)
    (hmore : Run direct s more s') : Run direct s₀ (history ++ more) s' := by
  induction hmore with
  | start => rwa [List.append_nil]
  | step _ hstep ih =>
      rw [← List.append_assoc]
      exact ih.step hstep

/-- What holds at the start and is upheld by every step holds along a run. -/
theorem invariant {I : System → Prop} (hrun : Run direct s₀ history s) (hstart : I s₀)
    (hstep : ∀ {s events s'}, Step direct s events s' → I s → I s') : I s := by
  induction hrun with
  | start => exact hstart
  | step _ h ih => exact hstep h ih

end Run

theorem Reachable.run {direct : FederationId → Prop} {s s' : System} {history : List JobEvent}
    (hs : Reachable direct s) (hrun : Run direct s history s') : Reachable direct s' :=
  let ⟨_, hbefore⟩ := hs
  ⟨_, hbefore.append hrun⟩

/-! ## Quiet changes -/

namespace Quiet

theorem refl (s : System) : Quiet s s :=
  ⟨rfl, Nat.le_refl _, fun _ => rfl, rfl, rfl, fun _ => rfl, rfl, rfl, rfl⟩

theorem trans {s s' s'' : System} (h : Quiet s s') (h' : Quiet s' s'') : Quiet s s'' where
  clock := h'.clock.trans h.clock
  federations := Nat.le_trans h.federations h'.federations
  states := fun id => (h'.states id).trans (h.states id)
  dispatchers := h'.dispatchers.trans h.dispatchers
  engines := h'.engines.trans h.engines
  lines := fun name => (h'.lines name).trans (h.lines name)
  ready := h'.ready.trans h.ready
  timers := h'.timers.trans h.timers
  nextJob := h'.nextJob.trans h.nextJob

/-- A change of records, buses, services or the depot. -/
theorem of_eq {s s' : System} (hclock : s'.clock = s.clock)
    (hfederations : s'.federations = s.federations) (hdispatchers : s'.dispatchers = s.dispatchers)
    (hengines : s'.engines = s.engines) (hgates : s'.gates = s.gates)
    (hready : s'.ready = s.ready) (htimers : s'.timers = s.timers)
    (hnextJob : s'.nextJob = s.nextJob) : Quiet s s' where
  clock := hclock
  federations := Nat.le_of_eq (by rw [hfederations])
  states := fun id => by simp only [System.federation, hfederations]
  dispatchers := hdispatchers
  engines := hengines
  lines := fun name => by simp only [System.gate, hgates]
  ready := hready
  timers := htimers
  nextJob := hnextJob

theorem of_aside {s s' : System} (h : Aside s s') : Quiet s s' where
  clock := h.clock
  federations := Nat.le_of_eq h.federations_size.symm
  states := fun id => by
    obtain ⟨problems, heq⟩ := h.federations id
    rw [heq]
    rfl
  dispatchers := h.dispatchers
  engines := h.engines
  lines := fun name => by simp only [System.gate, h.gates]
  ready := h.ready
  timers := h.timers
  nextJob := h.nextJob

/-- Whatever is done with a federation and the depot that leaves the federation's state. -/
theorem withFederation {α : Type} (id : FederationId)
    {f : Federation → Depot → α × Federation × Depot}
    (hf : ∀ federation depot, (f federation depot).2.1.state = federation.state) (s : System) :
    Quiet s ((withFederation id f).run s).2 where
  clock := rfl
  federations := Nat.le_of_eq Array.size_setIfInBounds.symm
  states := fun other => by
    change ((s.setFederation id _).federation other).state = _
    rw [s.federation_setFederation]
    split
    · rename_i hother
      rw [hother.1, hf]
    · rfl
  dispatchers := rfl
  engines := rfl
  lines := fun _ => rfl
  ready := rfl
  timers := rfl
  nextJob := rfl

/-- A new federation is not started, like those that were not made. -/
theorem addFederation {f : Federation} (hf : f.state = .notStarted) (s : System) :
    Quiet s ((addFederation f).run s).2 := by
  refine ⟨rfl, ?_, fun id => ?_, rfl, rfl, fun _ => rfl, rfl, rfl, rfl⟩
  · exact Nat.le_trans (Nat.le_succ _) (Nat.le_of_eq (Array.size_push f).symm)
  · change ((s.federations.push f).getD id default).state = _
    rw [System.getD_push]
    split
    · rename_i hid
      rw [hf, s.federation_out (Nat.le_of_eq hid.symm)]
      rfl
    · rfl

end Quiet

/-- A new dispatcher is there as it was made. -/
theorem System.dispatcher_addDispatcher (s : System) (d : Dispatcher) :
    System.dispatcher ((addDispatcher d).run s).2 s.dispatchers.size = d :=
  (System.getD_push ..).trans (if_pos rfl)

/-- Those that were made before stay as they are. -/
theorem System.dispatcher_addDispatcher_of_ne {s : System} {id : DispatcherId}
    (h : id ≠ s.dispatchers.size) (d : Dispatcher) :
    System.dispatcher ((addDispatcher d).run s).2 id = s.dispatcher id :=
  (System.getD_push ..).trans (if_neg h)

/-! ## Operations are runs -/

/-- What outlasts quiet changes of no buses and services, acts on buses that register no service, turns and
time outlasts all parts that operations on sources are made of. -/
theorem Sturdy.of_quiet {P : System → Prop}
    (hquiet : ∀ {s s'}, Quiet s s' → s'.services = s.services → s'.buses = s.buses → P s → P s')
    (hact : ∀ {s} id act, act.enlists = none → P s → P (s.setBus id ((s.bus id).after act)))
    (hturn : ∀ deadline {s}, P s → P ((ContentEngine.turn deadline).run s).2)
    (hpass : ∀ moment {s}, P s → P { s with clock := max s.clock moment }) : Sturdy fun _ => P where
  beside hbeside := hquiet (.of_aside hbeside.toAside) hbeside.services hbeside.buses
  act := hact
  turn deadline _ _ := hturn deadline
  pass moment := fun {_ _} hs => hpass moment hs
  install id name connector descriptor _ s :=
    hquiet (.withFederation id (fun f d => install_state f d name connector descriptor) s) rfl rfl
  remove id name _ s := hquiet (.withFederation id (fun f d => remove_state f d name) s) rfl rfl
  request id _ _ s := hquiet (.withFederation id (fun _ _ => rfl) s) rfl rfl
  resume id _ _ s := hquiet (.withFederation id (fun _ _ => rfl) s) rfl rfl
  abandon := fun hs => hs
  giveBack _ _ _ := hquiet (.of_eq rfl rfl rfl rfl rfl rfl rfl rfl) rfl rfl

/-- Having been reached by a run outlasts every operation: each of them is a run. -/
theorem lasting_run (direct : FederationId → Prop) (s₀ : System) :
    Lasting fun _ s => ∃ history, Run direct s₀ history s where
  aside haside := fun ⟨_, hrun⟩ => ⟨_, hrun.step (.quiet (.of_aside haside))⟩
  turn deadline _ s := fun ⟨_, hrun⟩ => ⟨_, hrun.step (.turn deadline s)⟩
  pass moment := fun ⟨_, hrun⟩ => ⟨_, hrun.step (.pass moment _)⟩
  install id _ _ _ _ s := fun ⟨_, hrun⟩ =>
    ⟨_, hrun.step (.quiet (.withFederation id (fun f d => install_state f d _ _ _) s))⟩
  remove id name _ s := fun ⟨_, hrun⟩ =>
    ⟨_, hrun.step (.quiet (.withFederation id (fun f d => remove_state f d name) s))⟩
  request id _ _ s := fun ⟨_, hrun⟩ =>
    ⟨_, hrun.step (.quiet (.withFederation id (fun _ _ => rfl) s))⟩
  resume id _ _ s := fun ⟨_, hrun⟩ =>
    ⟨_, hrun.step (.quiet (.withFederation id (fun _ _ => rfl) s))⟩
  abandon := id
  giveBack _ _ _ := fun ⟨_, hrun⟩ =>
    ⟨_, hrun.step (.quiet (.of_eq rfl rfl rfl rfl rfl rfl rfl rfl))⟩
  submit id work _ s := fun ⟨_, hrun⟩ => ⟨_, hrun.step (.submit id work s)⟩

end ContentEngine
