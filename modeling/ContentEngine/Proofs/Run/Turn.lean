import ContentEngine.Proofs.Dispatch.Standing
import ContentEngine.Proofs.Run.Step
import ContentEngine.Proofs.Source.Dealing

/-!
# Turns

What one turn of the background work can do.  `turn_cases` splits turns by what goes on: nothing, the
clock, or the first errand that is ready.  A turn of a job is a `JobTurn`: the job goes no further,
or joins the line for a permit, or its processor goes on until it ends or waits.  What a processor
does is a quiet change, so all that a job turn does to jobs and errands happens before and after that.
A dispatcher that is drained has a `DrainTurn`, and an engine that is closed a `CloseTurn`.
-/

namespace ContentEngine

/-! ## Processors -/

/-- What a processor that was to end in some way can end with: that, or the failure of one of its
actions. -/
def Ending.MayBecome (planned ending : Ending) : Prop :=
  ending = planned ∨ ∃ failure, ending = .failed failure

/-- Actions that have ended did so as was planned, or one of them failed. -/
def Advance.Keeps (planned : Ending) : Advance → Prop
  | .ended ending _ => planned.MayBecome ending
  | .paused _ _ _ => True

/-- A condition outlasts what processors do by themselves: they borrow connections and give them back,
note entries and take permits. -/
structure OutlastsActions (P : System → Prop) : Prop where
  lent : ∀ {s : System} {d : Depot}, s.depot.Lent d → P s → P (s.setDepot d)
  note : ∀ {s} (entry : Value), P s → P { s with notes := s.notes.push entry }
  permit : ∀ {s} (name : String) (permits : Nat), P s →
    P (s.setGate name { s.gate name with permits := permits })

namespace OutlastsActions

variable {P : System → Prop} (outlasts : OutlastsActions P)
include outlasts

theorem depot {α : Type} {f : Depot → α × Depot} (hf : ∀ d : Depot, d.Lent (f d).2) :
    Ensures P (withDepot f) fun _ => P :=
  .exchange fun s hs => outlasts.lent (hf s.depot) hs

/-- Asking a federation for a connection. -/
theorem ask {α : Type} (id : FederationId) {f : Federation → Depot → α × Depot}
    (hf : ∀ (federation : Federation) (d : Depot), d.Lent (f federation d).2) :
    Ensures P (withFederation id fun federation d =>
      ((f federation d).1, federation, (f federation d).2)) fun _ => P := by
  intro s hs
  change P ((s.setFederation id (s.federation id)).setDepot _)
  rw [s.setFederation_self]
  exact outlasts.lent (hf (s.federation id) s.depot) hs

theorem giveBack (loan : Option Loan) : Ensures P (giveBack loan) fun _ => P := by
  cases loan with
  | none => exact .answer fun _ hs => hs
  | some loan => exact outlasts.depot fun d => .release d loan

theorem takePermit (name : String) : Ensures P (takePermit name) fun _ => P := by
  refine .exchange fun s hs => ?_
  dsimp only
  split
  · exact hs
  · exact outlasts.permit name _ hs

omit outlasts in
theorem readNode (loan : Option Loan) (path : NodePath) : Ensures P (readNode loan path) fun _ => P := by
  unfold ContentEngine.readNode
  cases loan with
  | none => exact .answer fun _ hs => hs
  | some loan =>
      refine .seq (.part (Q := fun _ => P) fun _ hs => hs) fun d => ?_
      split <;> exact .answer fun _ hs => hs

/-- Actions come to the end that was planned, unless one of them fails. -/
theorem advance (federation : FederationId) (ending : Ending) (actions : List Action)
    (loan : Option Loan) :
    Ensures P (runActions federation ending actions loan) fun advance s =>
      P s ∧ advance.Keeps ending := by
  have hnote : ∀ entry, Ensures P (addNote entry) fun _ => P := fun entry =>
    .update fun _ hs => outlasts.note entry hs
  have hfailed : ∀ failure loan, Ensures P (pure (Advance.ended (.failed failure) loan))
      fun advance s => P s ∧ advance.Keeps ending := fun failure loan =>
    .answer fun _ hs => ⟨hs, .inr ⟨failure, rfl⟩⟩
  have hpaused : ∀ rest loan pause, Ensures P (pure (Advance.paused rest loan pause))
      fun advance s => P s ∧ advance.Keeps ending := fun rest loan pause =>
    .answer fun _ hs => ⟨hs, trivial⟩
  induction actions generalizing loan with
  | nil => exact .answer fun _ hs => ⟨hs, .inl rfl⟩
  | cons action rest ih =>
      cases action with
      | note entry => exact .andThen (hnote entry) fun _ => ih loan
      | expect source =>
          refine .seq (.part (Q := fun _ => P) fun _ hs => hs) fun f => ?_
          split
          · exact ih loan
          · exact hfailed _ loan
      | borrow source =>
          refine .andThen (outlasts.giveBack loan) fun _ => ?_
          refine .andThen (outlasts.ask federation fun f d => .borrow f d source) fun borrowing => ?_
          cases borrowing with
          | done loan => exact ih (some loan)
          | failed fault => exact hfailed _ none
          | opening o millis => exact hpaused rest none _
      | pass gate =>
          refine .andThen (outlasts.takePermit gate) fun passed => ?_
          cases passed with
          | true => exact ih loan
          | false => exact hpaused rest loan _
      | sleep millis =>
          cases millis with
          | zero => exact ih loan
          | succ millis => exact hpaused rest loan _
      | ping =>
          cases loan with
          | none => exact hfailed _ none
          | some held =>
              refine .andThen (outlasts.depot fun d => .ping d held.connection) fun reached => ?_
              cases reached with
              | ok _ => exact ih (some held)
              | error failure => exact hfailed failure (some held)
      | read path entry =>
          refine .andThen (readNode loan path) fun result => ?_
          cases result with
          | ok properties => exact .andThen (hnote _) fun _ => ih loan
          | error failure => exact hfailed failure loan
      | readOf source path entry =>
          refine .andThen (readNode loan path) fun result => ?_
          cases result with
          | ok properties => exact .andThen (hnote _) fun _ => ih loan
          | error failure => exact hfailed _ loan
      | giveBack => exact .andThen (outlasts.giveBack loan) fun _ => ih none

theorem runActions (federation : FederationId) (ending : Ending) (actions : List Action)
    (loan : Option Loan) :
    Ensures P (runActions federation ending actions loan) fun _ => P :=
  (outlasts.advance federation ending actions loan).weaken (fun _ hs => hs) fun _ _ hs => hs.1

end OutlastsActions

section quiet

variable {s₀ : System}

private theorem quiet_outlasts : OutlastsActions (Quiet s₀) where
  lent _ hs := hs.trans (.of_eq rfl rfl rfl rfl rfl rfl rfl rfl)
  note _ hs := hs.trans (.of_eq rfl rfl rfl rfl rfl rfl rfl rfl)
  permit {s} name permits hs := by
    refine hs.trans ⟨rfl, Nat.le_refl _, fun _ => rfl, rfl, rfl, fun other => ?_, rfl, rfl, rfl⟩
    rw [s.gate_setGate]
    split
    · rename_i hother
      rw [hother]
    · rfl

/-- Whatever a processor does is a quiet change. -/
theorem quiet_runActions (federation : FederationId) (ending : Ending) (actions : List Action)
    (loan : Option Loan) :
    Ensures (Quiet s₀) (runActions federation ending actions loan) fun _ => Quiet s₀ :=
  quiet_outlasts.runActions federation ending actions loan

end quiet

/-! ## Job turns -/

/-- Whether nothing is left to do for a job, or it waits in line. -/
def Stage.isIdle : Stage → Bool
  | .queued | .finished => true
  | .accepted | .permitted | .running _ => false

/-- How the processor of a job comes to go on: it has begun before, or it begins since the job has a
permit or gets one. -/
inductive Begins (id : DispatcherId) (index : JobIndex) (job : Job Processor) (s : System) :
    System → Prop
  | running {a} : (s.dispatcher id).jobs[index]? = some ⟨job, .running a⟩ → Begins id index job s s
  | permitted : (s.dispatcher id).jobs[index]? = some ⟨job, .permitted⟩ → Begins id index job s s
  | granted : (s.dispatcher id).jobs[index]? = some ⟨job, .accepted⟩ →
      (s.dispatcher id).freePermits ≠ 0 →
      Begins id index job s (s.setDispatcher id ((s.dispatcher id).requestPermit index))

/-- How the processor of a job ends if none of its actions fails. -/
def Job.ending (job : Job Processor) : Ending :=
  (job.work.processor job.assignment).ending

/-- How a job is going to end if nothing fails from now on. -/
def DispatchedJob.ending (j : DispatchedJob) : Ending :=
  match j.stage with
  | .running a => a.ending
  | .accepted | .queued | .permitted | .finished => j.job.ending

/-- How a turn ends in which the processor of a job went on. -/
inductive Leaves (id : DispatcherId) (index : JobIndex) (job : Job Processor) (s : System) :
    System → Prop
  | ended (ending) : (∀ j ∈ (s.dispatcher id).jobs[index]?, j.ending.MayBecome ending) →
      Leaves id index job s ((endJob id index job ending).run s).2
  | timed (a millis) : (∀ j ∈ (s.dispatcher id).jobs[index]?, a.ending = j.ending) →
      Leaves id index job s
        ((s.setDispatcher id ((s.dispatcher id).setStage index (.running a))).after millis
          (.job id index))
  | lined (a name) : (∀ j ∈ (s.dispatcher id).jobs[index]?, a.ending = j.ending) →
      Leaves id index job s
        ((s.setDispatcher id ((s.dispatcher id).setStage index (.running a))).setGate name
          { s.gate name with line := (s.gate name).line ++ [(id, index)] })

/-- What a turn of a job can do. -/
inductive JobTurn (id : DispatcherId) (index : JobIndex) (s : System) : System → Prop
  | idle : (∀ job ∈ (s.dispatcher id).jobs[index]?, job.stage.isIdle) → JobTurn id index s s
  | queue {job} : (s.dispatcher id).jobs[index]? = some ⟨job, .accepted⟩ →
      (s.dispatcher id).freePermits = 0 →
      JobTurn id index s (s.setDispatcher id ((s.dispatcher id).requestPermit index))
  | goOn {job s₁ s₂ s'} : Begins id index job s s₁ → Quiet s₁ s₂ → Leaves id index job s₂ s' →
      JobTurn id index s s'

section turns

variable {s s₁ : System} {id : DispatcherId} {index : JobIndex} {job : Job Processor}

/-- The end of a turn in which a processor went on. -/
private def Left (id : DispatcherId) (index : JobIndex) (job : Job Processor) (s₁ s' : System) :
    Prop :=
  ∃ s₂, Quiet s₁ s₂ ∧ Leaves id index job s₂ s'

/-- A processor that goes on in the way that was planned leaves its turn in that way. -/
private theorem settleJob_left {ending : Ending} {advance : Advance}
    (hplanned : ∀ j ∈ (s₁.dispatcher id).jobs[index]?, j.ending = ending)
    (hadvance : advance.Keeps ending) :
    Ensures (Quiet s₁) (settleJob id index job ending advance) fun _ => Left id index job s₁ := by
  have hplanned : ∀ {s}, Quiet s₁ s → ∀ j ∈ (s.dispatcher id).jobs[index]?, j.ending = ending := by
    intro s hs j hj
    rw [System.dispatcher, hs.dispatchers] at hj
    exact hplanned j hj
  cases advance with
  | ended outcome loan =>
      refine .andThen (quiet_outlasts.giveBack loan) fun _ s hs => ⟨s, hs, .ended outcome ?_⟩
      exact fun j hj => (hplanned hs j hj).symm ▸ hadvance
  | paused rest loan pause =>
      have hrest : ∀ {s}, Quiet s₁ s → ∀ j ∈ (s.dispatcher id).jobs[index]?, ending = j.ending :=
        fun hs j hj => (hplanned hs j hj).symm
      cases pause with
      | opening o millis => exact fun s hs => ⟨s, hs, .timed _ millis (hrest hs)⟩
      | sleep millis => exact fun s hs => ⟨s, hs, .timed _ millis (hrest hs)⟩
      | gate name => exact fun s hs => ⟨s, hs, .lined _ name (hrest hs)⟩

private theorem runActions_left {ending : Ending}
    (hplanned : ∀ j ∈ (s₁.dispatcher id).jobs[index]?, j.ending = ending) (federation : FederationId)
    (actions : List Action) (loan : Option Loan) :
    Ensures (Quiet s₁) (do
      let advance ← runActions federation ending actions loan
      settleJob id index job ending advance) fun _ => Left id index job s₁ :=
  .seq (quiet_outlasts.advance federation ending actions loan) fun _ =>
    .given fun hadvance => settleJob_left hplanned hadvance

private theorem invoke_left
    (hplanned : ∀ j ∈ (s₁.dispatcher id).jobs[index]?, j.ending = job.ending) :
    Ensures (Quiet s₁) (invoke id index job) fun _ => Left id index job s₁ := by
  refine .seq (.part (Q := fun _ => Quiet s₁) fun _ hs => hs) fun d => ?_
  exact runActions_left hplanned d.federation _ none

private theorem resume_left {a : Activity}
    (hplanned : ∀ j ∈ (s₁.dispatcher id).jobs[index]?, j.ending = a.ending) :
    Ensures (Quiet s₁) (resume id index job a) fun _ => Left id index job s₁ := by
  refine .seq (.part (Q := fun _ => Quiet s₁) fun _ hs => hs) fun d => ?_
  split
  · exact runActions_left hplanned d.federation a.rest a.loan
  · rename_i o _
    refine .andThen (quiet_outlasts.ask d.federation fun f depot => .resumeBorrow f depot o)
      fun borrowing => ?_
    cases borrowing with
    | done loan => exact runActions_left hplanned d.federation a.rest (some loan)
    | failed fault => exact settleJob_left hplanned (.inr ⟨fault.toFailure, rfl⟩)
    | opening o millis => exact settleJob_left hplanned trivial

private theorem goOn_of_left {s' : System} (hbegins : Begins id index job s s₁)
    (hleft : Left id index job s₁ s') : JobTurn id index s s' :=
  let ⟨_, hquiet, hleaves⟩ := hleft
  .goOn hbegins hquiet hleaves

end turns

/-- What a turn of a job does. -/
theorem runJob_turn (id : DispatcherId) (index : JobIndex) (s : System) :
    JobTurn id index s ((runJob id index).run s).2 := by
  unfold runJob
  rw [fromSystem_bind]
  split
  · rename_i hjob
    exact .idle (by simp [hjob])
  · rename_i job hjob
    have hlt := s.dispatcher_lt_of_job hjob
    rw [withDispatcher_bind, fromSystem_bind, s.dispatcher_setDispatcher_self hlt]
    dsimp only
    rw [Dispatcher.jobs_requestPermit_self hjob]
    by_cases hfree : (s.dispatcher id).freePermits = 0
    · rw [if_pos hfree]
      exact .queue hjob hfree
    · rw [if_neg hfree]
      refine goOn_of_left (.granted hjob hfree) (invoke_left (fun j hj => ?_) _ (.refl _))
      rw [s.dispatcher_setDispatcher_self hlt, Dispatcher.jobs_requestPermit_self hjob, if_neg hfree] at hj
      obtain rfl := Option.some.inj hj
      rfl
  · rename_i job hjob
    refine goOn_of_left (.permitted hjob) (invoke_left (fun j hj => ?_) s (.refl s))
    obtain rfl := Option.some.inj (hjob.symm.trans hj)
    rfl
  · rename_i job a hjob
    refine goOn_of_left (.running hjob) (resume_left (fun j hj => ?_) s (.refl s))
    obtain rfl := Option.some.inj (hjob.symm.trans hj)
    rfl
  · rename_i job hjob
    exact .idle (by simp [hjob, Stage.isIdle])
  · rename_i job hjob
    exact .idle (by simp [hjob, Stage.isIdle])

/-- The processor that `invokes?` tells of is the one that the turn invokes. -/
theorem runJob_invokes {id : DispatcherId} {index : JobIndex} {job : Job Processor} {s : System}
    (h : (s.dispatcher id).invokes? index = some job) :
    ∃ s₁, Begins id index job s s₁ ∧ (runJob id index).run s = (invoke id index job).run s₁ := by
  unfold Dispatcher.invokes? at h
  unfold runJob
  rw [fromSystem_bind]
  split at h
  · rename_i job' hjob
    obtain rfl := Option.some.inj h
    rw [hjob]
    exact ⟨s, .permitted hjob, rfl⟩
  · rename_i job' hjob
    by_cases hfree : (s.dispatcher id).freePermits = 0
    · rw [if_pos hfree] at h
      cases h
    · rw [if_neg hfree] at h
      obtain rfl := Option.some.inj h
      refine ⟨_, .granted hjob hfree, ?_⟩
      rw [hjob]
      dsimp only
      rw [withDispatcher_bind, fromSystem_bind,
        s.dispatcher_setDispatcher_self (s.dispatcher_lt_of_job hjob)]
      dsimp only
      rw [Dispatcher.jobs_requestPermit_self hjob, if_neg hfree]
  · cases h

/-- What a turn of a job does that invokes no processor. -/
inductive Continues (id : DispatcherId) (index : JobIndex) (s : System) : System → Prop
  /-- The job goes on as it ran. -/
  | resumed {job a} : (s.dispatcher id).jobs[index]? = some ⟨job, .running a⟩ →
      Continues id index s ((resume id index job a).run s).2
  /-- It joins the line for a permit. -/
  | queued : (s.dispatcher id).freePermits = 0 →
      Continues id index s (s.setDispatcher id ((s.dispatcher id).requestPermit index))
  | stayed : Continues id index s s

/-- A turn of which `invokes?` tells nothing invokes no processor. -/
theorem runJob_invokes_none {id : DispatcherId} {index : JobIndex} {s : System}
    (h : (s.dispatcher id).invokes? index = none) :
    Continues id index s ((runJob id index).run s).2 := by
  unfold runJob
  rw [fromSystem_bind]
  split
  · exact .stayed
  · rename_i job hjob
    have hfree : (s.dispatcher id).freePermits = 0 := by
      unfold Dispatcher.invokes? at h
      rw [hjob] at h
      by_cases hfree : (s.dispatcher id).freePermits = 0
      · exact hfree
      · dsimp only at h
        rw [if_neg hfree] at h
        cases h
    rw [withDispatcher_bind, fromSystem_bind,
      s.dispatcher_setDispatcher_self (s.dispatcher_lt_of_job hjob)]
    dsimp only
    rw [Dispatcher.jobs_requestPermit_self hjob, if_pos hfree]
    exact .queued hfree
  · rename_i job hjob
    unfold Dispatcher.invokes? at h
    rw [hjob] at h
    cases h
  · rename_i job a hjob
    exact .resumed hjob
  · exact .stayed
  · exact .stayed

/-- A job that ends hands its permit on, and may leave its dispatcher to be drained. -/
theorem endJob_run (id : DispatcherId) (index : JobIndex) (job : Job Processor) (ending : Ending)
    (s : System) :
    let ended := (((s.dispatcher id).record job ending).1.setStage index .finished).returnPermit
    ∃ lines drains, (∀ e ∈ drains, e = Errand.drain id) ∧
      ((endJob id index job ending).run s).2 =
        (((s.setDispatcher id ended.2).addLog lines).enqueue
          (ended.1.toList.map (.job id))).enqueue drains := by
  intro ended
  unfold endJob
  rw [withDispatcher_bind]
  dsimp only
  split
  · exact ⟨_, [.drain id], fun e he => List.mem_singleton.mp he, rfl⟩
  · refine ⟨((s.dispatcher id).record job ending).2, [], fun e he => absurd he List.not_mem_nil, ?_⟩
    rw [System.enqueue_nil]
    rfl

/-- When the processor of a job went on, the job has ended with its turn, or it is running. -/
theorem Leaves.dispatcher {id : DispatcherId} {index : JobIndex} {job : Job Processor} {s s' : System}
    (h : Leaves id index job s s') (hid : id < s.dispatchers.size) :
    (∃ ending, (∀ j ∈ (s.dispatcher id).jobs[index]?, j.ending.MayBecome ending) ∧ s'.dispatcher id =
      (((s.dispatcher id).record job ending).1.setStage index .finished).returnPermit.2) ∨
    ∃ a, (∀ j ∈ (s.dispatcher id).jobs[index]?, a.ending = j.ending) ∧
      s'.dispatcher id = (s.dispatcher id).setStage index (.running a) := by
  have hself := s.dispatcher_setDispatcher_self hid
  cases h with
  | ended ending hending =>
      obtain ⟨lines, drains, -, heq⟩ := endJob_run id index job ending s
      rw [heq]
      exact .inl ⟨ending, hending, hself _⟩
  | timed a millis ha => exact .inr ⟨a, ha, hself _⟩
  | lined a name ha => exact .inr ⟨a, ha, hself _⟩

theorem Leaves.nextJob {id : DispatcherId} {index : JobIndex} {job : Job Processor} {s s' : System}
    (h : Leaves id index job s s') : s'.nextJob = s.nextJob := by
  cases h with
  | ended ending _ =>
      obtain ⟨lines, drains, -, heq⟩ := endJob_run id index job ending s
      rw [heq]
      rfl
  | timed a millis _ => rfl
  | lined a name _ => rfl

/-- What turns of jobs leave alone of a dispatcher. -/
structure SameOffice (d d' : Dispatcher) : Prop where
  federation : d'.federation = d.federation
  poolSize : d'.poolSize = d.poolSize
  lifecycle : d'.lifecycle = d.lifecycle
  accepting : d'.accepting = d.accepting
  submitted : d'.submitted = d.submitted
  rejected : d'.rejected = d.rejected
  accepted : d'.accepted = d.accepted

namespace SameOffice

theorem refl (d : Dispatcher) : SameOffice d d :=
  ⟨rfl, rfl, rfl, rfl, rfl, rfl, rfl⟩

theorem trans {d d' d'' : Dispatcher} (h : SameOffice d d') (h' : SameOffice d' d'') :
    SameOffice d d'' :=
  ⟨h'.federation.trans h.federation, h'.poolSize.trans h.poolSize, h'.lifecycle.trans h.lifecycle,
    h'.accepting.trans h.accepting, h'.submitted.trans h.submitted, h'.rejected.trans h.rejected,
    h'.accepted.trans h.accepted⟩

theorem setStage (d : Dispatcher) (index : JobIndex) (stage : Stage) :
    SameOffice d (d.setStage index stage) :=
  ⟨rfl, rfl, rfl, rfl, rfl, rfl, d.accepted_setStage index stage⟩

theorem requestPermit (d : Dispatcher) (index : JobIndex) : SameOffice d (d.requestPermit index) := by
  unfold Dispatcher.requestPermit
  split
  · exact .trans (.setStage d index .queued) ⟨rfl, rfl, rfl, rfl, rfl, rfl, rfl⟩
  · exact .trans (.setStage d index .permitted) ⟨rfl, rfl, rfl, rfl, rfl, rfl, rfl⟩

theorem returnPermit (d : Dispatcher) : SameOffice d d.returnPermit.2 := by
  unfold Dispatcher.returnPermit
  split
  · exact ⟨rfl, rfl, rfl, rfl, rfl, rfl, rfl⟩
  · rename_i next line _
    exact .trans (.setStage d next .permitted) ⟨rfl, rfl, rfl, rfl, rfl, rfl, rfl⟩

theorem finish (d : Dispatcher) (index : JobIndex) (job : Job Processor) (ending : Ending) :
    SameOffice d ((d.record job ending).1.setStage index .finished).returnPermit.2 := by
  have hrecorded : SameOffice d (d.record job ending).1 := ⟨rfl, rfl, rfl, rfl, rfl, rfl, rfl⟩
  exact (hrecorded.trans (.setStage _ index .finished)).trans (.returnPermit _)

theorem setDispatcher {s : System} {id : DispatcherId} {d : Dispatcher}
    (h : SameOffice (s.dispatcher id) d) (other : DispatcherId) :
    SameOffice (s.dispatcher other) ((s.setDispatcher id d).dispatcher other) := by
  rw [s.dispatcher_setDispatcher]
  split
  · rename_i hother
    rw [hother.1]
    exact h
  · exact .refl _

end SameOffice

/-- Turns of jobs make no dispatchers and leave alone what is not about jobs. -/
theorem JobTurn.office {id : DispatcherId} {index : JobIndex} {s s' : System}
    (h : JobTurn id index s s') :
    s'.dispatchers.size = s.dispatchers.size ∧
      ∀ other, SameOffice (s.dispatcher other) (s'.dispatcher other) := by
  have hset : ∀ (t : System) d, SameOffice (t.dispatcher id) d →
      (t.setDispatcher id d).dispatchers.size = t.dispatchers.size ∧
        ∀ other, SameOffice (t.dispatcher other) ((t.setDispatcher id d).dispatcher other) :=
    fun t d hd => ⟨t.dispatchers_size_setDispatcher id d, hd.setDispatcher⟩
  cases h with
  | idle _ => exact ⟨rfl, fun _ => .refl _⟩
  | queue _ _ => exact hset s _ (.requestPermit _ _)
  | @goOn job s₁ s₂ s' hbegins hquiet hleaves =>
      have hbefore : s₁.dispatchers.size = s.dispatchers.size ∧
          ∀ other, SameOffice (s.dispatcher other) (s₁.dispatcher other) := by
        cases hbegins with
        | running _ => exact ⟨rfl, fun _ => .refl _⟩
        | permitted _ => exact ⟨rfl, fun _ => .refl _⟩
        | granted _ _ => exact hset s _ (.requestPermit _ _)
      have hafter : s'.dispatchers.size = s₂.dispatchers.size ∧
          ∀ other, SameOffice (s₂.dispatcher other) (s'.dispatcher other) := by
        cases hleaves with
        | ended ending =>
            obtain ⟨_, _, -, heq⟩ := endJob_run id index job ending s₂
            rw [heq]
            exact hset s₂ _ (.finish _ index job ending)
        | timed a millis => exact hset s₂ _ (.setStage _ index _)
        | lined a name => exact hset s₂ _ (.setStage _ index _)
      have hsame : ∀ other, s₂.dispatcher other = s₁.dispatcher other := fun other => by
        rw [System.dispatcher, hquiet.dispatchers, System.dispatcher]
      refine ⟨hafter.1.trans ((congrArg Array.size hquiet.dispatchers).trans hbefore.1), fun other => ?_⟩
      exact (hbefore.2 other).trans (hsame other ▸ hafter.2 other)

/-- Turns of jobs change no states of federations. -/
theorem JobTurn.state {id : DispatcherId} {index : JobIndex} {s s' : System}
    (h : JobTurn id index s s') (f : FederationId) :
    (s'.federation f).state = (s.federation f).state := by
  cases h with
  | idle _ => rfl
  | queue _ _ => rfl
  | @goOn job s₁ s₂ s' hbegins hquiet hleaves =>
      have hbefore : s₁.federations = s.federations := by cases hbegins <;> rfl
      have hafter : s'.federations = s₂.federations := by
        cases hleaves with
        | ended ending =>
            obtain ⟨lines, drains, -, heq⟩ := endJob_run id index job ending s₂
            rw [heq]
            rfl
        | timed a millis => rfl
        | lined a name => rfl
      rw [System.federation, hafter]
      refine (hquiet.states f).trans ?_
      rw [System.federation, hbefore, System.federation]

/-! ## Draining and closing -/

/-- The system where the engines are woken that wait for a dispatcher to terminate. -/
def System.wakeEngines (s : System) (id : DispatcherId) : System :=
  let woken := (waitingEngines s id).map Errand.close
  { s with
    timers := s.timers.filter fun timer => !woken.contains timer.errand
    ready := s.ready ++ woken }

/-- What the errand that drains a dispatcher can do: a dispatcher that is stopping terminates once its
jobs have ended, and wakes the engines that wait for that. -/
inductive DrainTurn (id : DispatcherId) (s : System) : System → Prop
  | idle : ¬((s.dispatcher id).lifecycle.state = .stopping ∧ (s.dispatcher id).isDrained = true) →
      DrainTurn id s s
  | drained : (s.dispatcher id).lifecycle.state = .stopping → (s.dispatcher id).isDrained = true →
      DrainTurn id s ((s.setDispatcher id { s.dispatcher id with
        lifecycle := (s.dispatcher id).lifecycle.markTerminated }).wakeEngines id)

theorem runDrain_turn (id : DispatcherId) (s : System) : DrainTurn id s ((runDrain id).run s).2 := by
  change DrainTurn id s (if _ then _ else s)
  split
  · rename_i hdrained
    exact .drained hdrained.1 hdrained.2
  · rename_i hnot
    exact .idle hnot

/-- A dispatcher that is drained has terminated then. -/
theorem System.state_of_drained {s : System} {id : DispatcherId}
    (hstopping : (s.dispatcher id).lifecycle.state = .stopping) :
    ((s.setDispatcher id { s.dispatcher id with
      lifecycle := (s.dispatcher id).lifecycle.markTerminated }).dispatcher id).lifecycle.state =
        .terminated := by
  have hlt : id < s.dispatchers.size :=
    s.dispatcher_lt_of_state fun hnew => nomatch hstopping.symm.trans hnew
  rw [s.dispatcher_setDispatcher_self hlt]
  rfl

/-- Draining a dispatcher leaves federations alone. -/
theorem DrainTurn.federations {id : DispatcherId} {s s' : System} (h : DrainTurn id s s') :
    s'.federations = s.federations := by
  cases h <;> rfl

/-- What the errand that closes an engine can do: an engine that was asked to close does so, unless it
begins to wait for its dispatcher. -/
inductive CloseTurn (id : EngineId) (s : System) : System → Prop
  | idle : (s.engine id).closing = .idle → CloseTurn id s s
  | close : (s.engine id).closing ≠ .idle →
      (s.dispatcher (s.engine id).dispatcher).lifecycle.state = .terminated →
      CloseTurn id s ((closeEngine id).run s).2
  | wait : (s.engine id).closing = .due →
      (s.dispatcher (s.engine id).dispatcher).lifecycle.state = .stopping →
      CloseTurn id s ((s.setEngine id { s.engine id with
        closing := .waiting (s.clock + (s.engine id).settings.dispatcher.drainTimeoutMillis) }).after
          (s.engine id).settings.dispatcher.drainTimeoutMillis (.close id))
  /-- The time is up, or there is none to wait. -/
  | overdue : (s.engine id).closing ≠ .idle →
      ¬((s.engine id).closing = .due ∧
        (s.dispatcher (s.engine id).dispatcher).lifecycle.state = .stopping ∧
        (s.engine id).settings.dispatcher.drainTimeoutMillis ≠ 0) →
      CloseTurn id s ((closeEngine id).run (s.addLog
        [overdueWarning (s.engine id) (s.dispatcher (s.engine id).dispatcher).stats])).2

theorem runClose_turn (id : EngineId) (s : System) : CloseTurn id s ((runClose id).run s).2 := by
  unfold runClose
  rw [get_bind]
  dsimp only
  split
  · rename_i hidle
    exact .idle hidle
  rename_i hasked
  split
  · rename_i hterminated
    exact .close hasked hterminated
  split
  · rename_i hwaits
    exact .wait hwaits.1 hwaits.2.1
  · rename_i hoverdue
    exact .overdue hasked hoverdue

/-- Closing an engine that does not wait for that does nothing. -/
theorem CloseTurn.eq_of_idle {id : EngineId} {s s' : System} (h : CloseTurn id s s')
    (hidle : (s.engine id).closing = .idle) : s' = s := by
  cases h with
  | idle _ => rfl
  | close hasked _ | overdue hasked _ => exact absurd hidle hasked
  | wait hdue _ => exact nomatch hdue.symm.trans hidle

/-! ## Turns -/

/-- The first errand that is ready goes on. -/
theorem turn_ready (deadline : Nat) {s : System} {errand : Errand} {rest : List Errand}
    (h : s.ready = errand :: rest) :
    ((turn deadline).run s).2 = ((runErrand errand).run { s with ready := rest }).2 := by
  unfold turn
  rw [get_bind, h]
  rfl

/-- In a turn nothing goes on, or the clock does, or the first errand that is ready. -/
theorem turn_cases (deadline : Nat) (s : System) :
    (s.ready = [] ∧ ((turn deadline).run s).2 = s) ∨
      (s.ready = [] ∧ ∃ moment, s.nextMoment? = some moment ∧
        ((turn deadline).run s).2 = s.wake moment) ∨
      ∃ errand rest, s.ready = errand :: rest ∧
        ((turn deadline).run s).2 = ((runErrand errand).run { s with ready := rest }).2 := by
  cases hready : s.ready with
  | cons errand rest => exact .inr (.inr ⟨errand, rest, rfl, turn_ready deadline hready⟩)
  | nil =>
    unfold turn
    rw [get_bind, hready]
    dsimp only
    split
    · exact .inl ⟨rfl, rfl⟩
    · rename_i moment hmoment
      split
      · exact .inr (.inl ⟨rfl, moment, hmoment, rfl⟩)
      · exact .inl ⟨rfl, rfl⟩

end ContentEngine
